import CallScript.Proofs.Capture.Extent
import CallScript.Proofs.Endpoint
import CallScript.Proofs.Scenario.Course
import CallScript.Settings.Source

/-!
# Scenarios have captures

The checks of settings and of endpoints are what an encoder relies on: packets of ten to a hundred
milliseconds, and ports that fit into two bytes.  Whatever is done with a scenario afterwards, it
has a capture unless its times are too great for the fields of a record.

Main statements:
* `Settings.packetIntervalMs_of_ofSource`: how long the packets of checked settings are.
* `Endpoint.port_of_ofValue`: the ports of endpoints.
* `Scenario.exists_capture`: scenarios have captures, and how long these are.
-/

namespace CallScript

namespace Settings

theorem toBounded_eq_ok
    {low high n : Int} {value : Value}
    (h : toBounded low high value = .ok n) :
    low ≤ n ∧ n ≤ high := by
  unfold toBounded at h
  cases hwhole : toWhole value with
  | error problem =>
      rw [hwhole] at h
      cases h
  | ok m =>
      rw [hwhole] at h
      simp only [Result.ok_bind] at h
      split at h
      · cases h
      · split at h
        · cases h
        · cases h
          omega

/-- A bounded setting lies between its bounds when its default does. -/
theorem Source.read_bounded
    (source : Source)
    (name : String)
    {low high default : Int}
    (hlow : low ≤ default)
    (hhigh : default ≤ high) :
    low ≤ (source.read name (toBounded low high) default).value ∧
      (source.read name (toBounded low high) default).value ≤ high := by
  unfold Source.read
  cases source.find? name with
  | none =>
      exact ⟨hlow, hhigh⟩
  | some value =>
      dsimp only
      cases hfit : toBounded low high value with
      | error problem =>
          exact ⟨hlow, hhigh⟩
      | ok n =>
          exact toBounded_eq_ok hfit

/-- The packets of checked settings take ten to a hundred milliseconds. -/
theorem packetIntervalMs_of_ofSource
    {source : Source} {settings : Settings}
    (h : ofSource source = .ok settings) :
    10 ≤ settings.packetIntervalMs ∧ settings.packetIntervalMs ≤ 100 := by
  unfold ofSource at h
  dsimp only at h
  split at h
  · cases h
    exact source.read_bounded "packet_interval_ms" (by decide) (by decide)
  · cases h

end Settings

/-- An endpoint has a port that fits into two bytes. -/
theorem Endpoint.port_of_ofValue
    {value : Value} {label : String} {endpoint : Endpoint}
    (h : Endpoint.ofValue value label = .ok endpoint) :
    0 < endpoint.port ∧ endpoint.port < 65536 := by
  obtain ⟨_, _, _, _, hproper⟩ := Endpoint.ofValue_eq_ok_iff.mp h
  exact ⟨hproper.least, Int.lt_add_one_of_le hproper.most⟩

namespace Scenario

/-- A scenario is created with the settings it is given and between two ports. -/
theorem parties_of_create
    {settings : Settings} {name : Option Text} {source destination fromUser : Value}
    {s : Scenario}
    (h : create settings name source destination fromUser = .ok s) :
    s.settings = settings ∧ s.encoder.source.HasPort ∧ s.encoder.destination.HasPort := by
  obtain ⟨first, hfirst, h⟩ := Result.bind_eq_ok h
  obtain ⟨second, hsecond, h⟩ := Result.bind_eq_ok h
  dsimp only at h
  split at h
  · cases h
  · cases h
    have hfrom := Endpoint.port_of_ofValue hfirst
    have hto := Endpoint.port_of_ofValue hsecond
    exact ⟨rfl, ⟨hfrom.1.le, hfrom.2⟩, ⟨hto.1.le, hto.2⟩⟩

/-- A scenario that has been created and moved on has a timeline of tokens. -/
theorem timeline_run
    {settings : Settings} {name : Option Text} {source destination fromUser : Value}
    {start : Scenario}
    (hstart : create settings name source destination fromUser = .ok start)
    (moves : List Move) :
    ∃ tokens,
      (start.run moves).timeline = .ofTokens tokens ∧
      (start.run moves).encoder = start.encoder := by
  obtain ⟨_, htimeline, _⟩ := fresh_of_create hstart
  obtain ⟨passages, hrun, _⟩ := run_eq_extended start moves
  refine ⟨passages.flatMap Passage.tokens, ?_, ?_⟩
  · rw [hrun, extended, htimeline]
    rfl
  · rw [hrun]
    rfl

/--
**Scenarios have captures.**  Whatever was done with a scenario that has checked settings, failing
calls included, it has a capture when it starts and ends in time, and the length of the capture is
that of a header and of the packets of its tokens.
-/
theorem exists_capture
    {given : Settings.Source} {settings : Settings}
    {name : Option Text} {source destination fromUser : Value} {start : Scenario}
    (hsettings : Settings.ofSource given = .ok settings)
    (hstart : create settings name source destination fromUser = .ok start)
    (moves : List Move)
    {clock : Capture.Clock} {startUsec : Int}
    (htime : Capture.toMicroseconds clock.time = .ok startUsec)
    (hbegin : 0 ≤ startUsec)
    (hend : startUsec + 1000 * (start.run moves).timeline.nominalMs 250 < 2 ^ 32 * 1000000) :
    ∃ tokens encoded,
      (start.run moves).timeline = .ofTokens tokens ∧
      (start.run moves).capture clock = .ok encoded ∧
      encoded.bytes.length =
        24 + (tokens.map (Capture.extentOf settings.packetIntervalMs.toNat)).sum := by
  obtain ⟨hleast, hmost⟩ := Settings.packetIntervalMs_of_ofSource hsettings
  obtain ⟨hsame, hsource, hdestination⟩ := parties_of_create hstart
  obtain ⟨tokens, htimeline, hencoder⟩ := timeline_run hstart moves
  have hadmitted :
      Capture.Admitted start.encoder.profile settings.packetIntervalMs.toNat := by
    have hprofile : start.encoder.profile = settings.profile := by
      rw [← hsame]
      rfl
    rw [hprofile]
    refine ⟨rfl, rfl, ?_, by omega, by omega⟩
    change settings.packetIntervalMs = _
    omega
  rw [htimeline] at hend
  obtain ⟨encoded, hencoded, hlength⟩ :=
    start.encoder.exists_encode hadmitted hsource hdestination htime hbegin hend
  refine ⟨tokens, encoded, htimeline, ?_, hlength⟩
  rw [capture, hencoder, htimeline, hencoded]

/-- A course in which a call fails between silence and digits, begun at a later time. -/
theorem exists_capture_between_failures :
    let moves : List Move :=
      [ .call .sleep ⟨[.integer 1], []⟩,
        .call .sendDigits ⟨[.text "4X"], []⟩,
        .manifest [.map [(.text "send_digits", .list [.text "#", .integer 0])]] ]
    let clock : Capture.Clock := ⟨7, 65535, 2 ^ 32 - 4, .integer 1700000000⟩
    ∃ tokens encoded,
      (sample.run moves).timeline = .ofTokens tokens ∧
      (sample.run moves).capture clock = .ok encoded ∧
      encoded.bytes.length = 24 + (tokens.map (Capture.extentOf 20)).sum := by
  intro moves clock
  have hsettings : Settings.ofSource ⟨[], [], []⟩ = .ok .standard := by
    rfl
  have htime : Capture.toMicroseconds clock.time = .ok 1700000000000000 := by
    rfl
  have hnominal : (sample.run moves).timeline.nominalMs 250 = 1250 := by
    decide +kernel
  have hend : 1700000000000000 + 1000 * (sample.run moves).timeline.nominalMs 250 <
      2 ^ 32 * 1000000 := by
    rw [hnominal]
    decide
  exact exists_capture hsettings create_sample moves htime (by decide) hend

end Scenario
end CallScript
