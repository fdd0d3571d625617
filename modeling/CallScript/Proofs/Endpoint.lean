import CallScript.Endpoint
import CallScript.Proofs.Result
import CallScript.Proofs.Text.Numeral

/-!
# How endpoints are written

An endpoint is written as its host and its port with a colon between them, and the last colon of
a text is the one that counts.  A host that stands in square brackets is taken out of them; any
other host is taken as it is.

Main statements:
* `Endpoint.ofValue_eq_ok_iff`: which texts are read as which endpoint.
* `Endpoint.written_reads_back`: what is written in either form is read as what it was, and a text
  that is not read has a fault of configuration.
* `Endpoint.documented_iff_of_ofValue`: a text that is read is in one of the two documented forms
  exactly where its host is a plain name or stands in brackets.
-/

namespace CallScript
namespace Endpoint

/-- The mark between a host and a port. -/
abbrev colon : Mark := .char ':'

/-- The bracket before a host. -/
abbrev opening : Mark := .char '['

/-- The bracket behind a host. -/
abbrev closing : Mark := .char ']'

section Split

variable {t before port : Text}

/-- A text with a colon has a last one. -/
theorem exists_last_colon
    (h : colon ∈ t) :
    ∃ before port, t = before ++ colon :: port ∧ colon ∉ port := by
  obtain ⟨front, rest, hreversed, hfront⟩ :=
    List.eq_append_cons_of_mem (List.mem_reverse.mpr h)
  refine ⟨rest.reverse, front.reverse, ?_, by simpa using hfront⟩
  rw [← List.reverse_reverse t, hreversed]
  simp

/-- A text is split at a colon behind which there is none. -/
theorem splitLastColon?_append
    (h : colon ∉ port) :
    splitLastColon? (before ++ colon :: port) = some (before, port) := by
  have hother : ∀ mark ∈ port.reverse, decide (mark ≠ colon) = true := by
    intro mark hmark
    rw [decide_eq_true_iff]
    rintro rfl
    exact h (List.mem_reverse.mp hmark)
  have hreversed : (before ++ colon :: port).reverse = port.reverse ++ colon :: before.reverse := by
    simp
  unfold splitLastColon?
  dsimp only
  rw [hreversed, List.dropWhile_append_of_pos hother, List.takeWhile_append_of_pos hother]
  simp

theorem splitLastColon?_eq_none
    (h : colon ∉ t) :
    splitLastColon? t = none := by
  have hdropped : t.reverse.dropWhile (fun mark => decide (mark ≠ colon)) = [] := by
    rw [List.dropWhile_eq_nil_iff]
    intro mark hmark
    rw [decide_eq_true_iff]
    rintro rfl
    exact h (List.mem_reverse.mp hmark)
  unfold splitLastColon?
  dsimp only
  rw [hdropped]

end Split

/-- Holds of the hosts that begin with an opening bracket and end with a closing one. -/
def IsEnclosed (host : Text) : Prop :=
  host.head? = some opening ∧ host.getLast? = some closing

instance (host : Text) : Decidable (IsEnclosed host) :=
  inferInstanceAs (Decidable (_ ∧ _))

/-- A host in brackets is what stands between the two. -/
theorem isEnclosed_iff {host : Text} :
    IsEnclosed host ↔ ∃ inner, host = opening :: (inner ++ [closing]) := by
  constructor
  · rintro ⟨hfirst, hlast⟩
    obtain ⟨rest, rfl⟩ := List.head?_eq_some_iff.mp hfirst
    obtain ⟨front, hfront⟩ := List.getLast?_eq_some_iff.mp hlast
    cases front with
    | nil =>
        cases hfront
    | cons mark inner =>
        exact ⟨inner, by rw [List.cons_append] at hfront; rw [(List.cons.inj hfront).2]⟩
  · rintro ⟨inner, rfl⟩
    exact ⟨rfl, by rw [← List.cons_append, List.getLast?_concat]⟩

theorem unbracket_enclosed (inner : Text) :
    unbracket (opening :: (inner ++ [closing])) = inner := by
  obtain ⟨hfirst, hlast⟩ := isEnclosed_iff.mpr ⟨inner, rfl⟩
  unfold unbracket
  rw [if_pos (by simp [hlast])]
  simp

theorem unbracket_of_not_isEnclosed
    {host : Text}
    (h : ¬ IsEnclosed host) :
    unbracket host = host := by
  unfold unbracket
  rw [if_neg (by simpa [IsEnclosed] using h)]

/-- An endpoint with a host and a port that can be used. -/
structure IsProper (e : Endpoint) : Prop where
  host : e.host ≠ []
  least : 1 ≤ e.port
  most : e.port ≤ 65535

/-- Holds of the numerals of a port. -/
structure IsPort (port : Text) (n : Int) : Prop where
  bare : colon ∉ port
  reads : Text.integer port = .ok n

/-- The texts of an endpoint: its host stands in brackets, or has no brackets around it. -/
inductive Reads (e : Endpoint) : Text → Prop
  | bracketed {port : Text} :
      IsPort port e.port →
      Reads e (opening :: (e.host ++ closing :: colon :: port))
  | bare {port : Text} :
      IsPort port e.port →
      ¬ IsEnclosed e.host →
      Reads e (e.host ++ colon :: port)

/-- The texts of an endpoint are split at their last colon, and the host is what it is taken for. -/
theorem reads_iff {e : Endpoint} {t : Text} :
    Reads e t ↔
      ∃ before port,
        splitLastColon? t = some (before, port) ∧
        unbracket before = e.host ∧
        Text.integer port = .ok e.port := by
  constructor
  · rintro (⟨hport⟩ | ⟨hport, hhost⟩)
    · refine ⟨opening :: (e.host ++ [closing]), _, ?_, unbracket_enclosed e.host, hport.reads⟩
      rw [← splitLastColon?_append hport.bare]
      simp
    · exact ⟨e.host, _, splitLastColon?_append hport.bare, unbracket_of_not_isEnclosed hhost,
        hport.reads⟩
  · rintro ⟨before, port, hsplit, hhost, hreads⟩
    by_cases hcolon : colon ∈ t
    · obtain ⟨first, last, rfl, hbare⟩ := exists_last_colon hcolon
      rw [splitLastColon?_append hbare] at hsplit
      obtain ⟨rfl, rfl⟩ := Prod.mk.inj (Option.some.inj hsplit)
      -- Brackets are taken off only where both of them are there.
      by_cases henclosed : IsEnclosed first
      · obtain ⟨inner, rfl⟩ := isEnclosed_iff.mp henclosed
        rw [unbracket_enclosed] at hhost
        subst hhost
        have hform : opening :: (e.host ++ [closing]) ++ colon :: last =
            opening :: (e.host ++ closing :: colon :: last) := by
          simp
        rw [hform]
        exact .bracketed ⟨hbare, hreads⟩
      · rw [unbracket_of_not_isEnclosed henclosed] at hhost
        subst hhost
        exact .bare ⟨hbare, hreads⟩ henclosed
    · rw [splitLastColon?_eq_none hcolon] at hsplit
      cases hsplit

/-- **Endpoints.**  A value that is set is read as an endpoint exactly where its text is one of
the texts of that endpoint, and the endpoint can be used. -/
theorem ofValue_eq_ok_iff {value : Value} {label : String} {e : Endpoint} :
    ofValue value label = .ok e ↔
      value.isSet = true ∧
      ∃ text, Fault.plainText value = .ok text ∧ Reads e text ∧ e.IsProper := by
  constructor
  · intro h
    unfold ofValue at h
    split at h
    · cases h
    · next hset =>
        obtain ⟨text, htext, h⟩ := Result.bind_eq_ok h
        dsimp only at h
        split at h
        · cases h
        · next before port hsplit =>
            split at h
            · cases h
            · next hhost =>
                split at h
                · cases h
                · next n hport =>
                    split at h
                    · next hrange =>
                        cases h
                        have hbounds : 0 < n ∧ n < 65536 := by simpa using hrange
                        exact ⟨by simpa using hset, text, htext,
                          reads_iff.mpr ⟨before, port, hsplit, rfl, hport⟩,
                          ⟨by simpa using hhost, hbounds.1, Int.le_of_lt_add_one hbounds.2⟩⟩
                    · cases h
  · rintro ⟨hset, text, htext, hreads, hproper⟩
    obtain ⟨before, port, hsplit, hhost, hport⟩ := reads_iff.mp hreads
    have hleast := hproper.least
    have hmost := hproper.most
    unfold ofValue
    rw [if_neg (by simp [hset]), htext, Result.ok_bind]
    dsimp only
    rw [hsplit]
    dsimp only
    rw [hhost, if_neg (by simpa using hproper.host), hport]
    dsimp only
    rw [if_pos (by simp; omega)]
    rfl

section Texts

variable {text : Text} {label : String} {e : Endpoint}

/-- The text of an endpoint with its host in brackets. -/
def bracketed (e : Endpoint) : Text :=
  opening :: (e.host ++ closing :: colon :: Text.ofString (toString e.port))

/-- The text of an endpoint with its host as it is. -/
def bare (e : Endpoint) : Text :=
  e.host ++ colon :: Text.ofString (toString e.port)

/-- The decimal digits of a port are read as the port. -/
theorem IsProper.isPort
    (h : e.IsProper) :
    IsPort (Text.ofString (toString e.port)) e.port := by
  have hleast := h.least
  have hmost := h.most
  obtain ⟨n, hn⟩ := Int.eq_ofNat_of_zero_le (show 0 ≤ e.port by omega)
  have hshort : n < 10 ^ Text.longestNumeral :=
    lt_of_lt_of_le (show n < 10 ^ 5 by omega) (Nat.pow_le_pow_right (by decide) (by decide))
  have hdigits : (toString n).toList = Nat.toDigits 10 n := Nat.toList_repr
  have hwritten : toString (n : Int) = toString n := rfl
  rw [hn, hwritten]
  refine ⟨fun hcolon => ?_, Text.integer_toString hshort⟩
  rw [Text.ofString, hdigits] at hcolon
  obtain ⟨c, hc, hmark⟩ := List.mem_map.mp hcolon
  cases hmark
  exact absurd (Nat.isDigit_of_mem_toDigits (by decide) (by decide) hc) (by decide)

theorem ofValue_of_reads
    (hreads : Reads e text)
    (hproper : e.IsProper) :
    ofValue (.text text) label = .ok e := by
  have hset : (Value.text text).isSet = true := by
    cases hreads <;> simp [Value.isSet]
  exact ofValue_eq_ok_iff.mpr ⟨hset, text, rfl, hreads, hproper⟩

theorem reads_of_ofValue
    (h : ofValue (.text text) label = .ok e) :
    Reads e text ∧ e.IsProper := by
  obtain ⟨_, _, htext, hreads, hproper⟩ := ofValue_eq_ok_iff.mp h
  cases htext
  exact ⟨hreads, hproper⟩

/-- A text that is read as no endpoint has a fault of configuration. -/
theorem configuration_of_ofValue
    {fault : Fault}
    (h : ofValue (.text text) label = .error fault) :
    fault.kind = .configuration := by
  have hplain : Fault.plainText (.text text) = .ok text := rfl
  unfold ofValue at h
  rw [hplain] at h
  split at h
  · cases h
    rfl
  · rw [Result.ok_bind] at h
    dsimp only at h
    split at h
    · cases h
      rfl
    · split at h
      · cases h
        rfl
      · split at h
        · cases h
          rfl
        · split at h
          · cases h
          · cases h
            rfl

end Texts

/--
**Written endpoints.**  An endpoint that can be used is read back from its text in brackets, and,
unless its host stands in brackets by itself, from its text without them.  A text of any kind is
read as an endpoint that can be used, or it has a fault of configuration.
-/
theorem written_reads_back (label : String) :
    (∀ e : Endpoint, e.IsProper →
      ofValue (.text e.bracketed) label = .ok e ∧
      (¬ IsEnclosed e.host → ofValue (.text e.bare) label = .ok e)) ∧
    ∀ text : Text,
      (∃ e, ofValue (.text text) label = .ok e ∧ e.IsProper) ∨
      ∃ fault, ofValue (.text text) label = .error fault ∧ fault.kind = .configuration := by
  constructor
  · intro e hproper
    exact ⟨ofValue_of_reads (.bracketed hproper.isPort) hproper,
      fun hhost => ofValue_of_reads (.bare hproper.isPort hhost) hproper⟩
  · intro text
    cases hresult : ofValue (.text text) label with
    | ok e =>
        exact .inl ⟨e, rfl, (reads_of_ofValue hresult).2⟩
    | error fault =>
        exact .inr ⟨fault, rfl, configuration_of_ofValue hresult⟩

/-- A host with colons and a bracket in it is read back from either text. -/
theorem written_reads_back_with_colons :
    (⟨"2001:db8::1]", 5060⟩ : Endpoint).IsProper ∧
    ¬ IsEnclosed "2001:db8::1]" ∧
    ofValue (.text "[2001:db8::1]]:5060") "source" = .ok ⟨"2001:db8::1]", 5060⟩ ∧
    ofValue (.text "2001:db8::1]:5060") "source" = .ok ⟨"2001:db8::1]", 5060⟩ := by
  have hproper : (⟨"2001:db8::1]", 5060⟩ : Endpoint).IsProper := ⟨by decide, by decide, by decide⟩
  have hhost : ¬ IsEnclosed "2001:db8::1]" := by decide
  obtain ⟨hbracketed, hbare⟩ := (written_reads_back "source").1 _ hproper
  exact ⟨hproper, hhost, hbracketed, hbare hhost⟩

section Forms

/-- Holds of the hosts without a colon and without brackets. -/
structure IsName (host : Text) : Prop where
  colon : colon ∉ host
  opening : opening ∉ host
  closing : closing ∉ host

/-- The documented texts of an endpoint: a name and a port, or an address in brackets and a port. -/
inductive IsDocumented (e : Endpoint) : Text → Prop
  | bracketed {port : Text} :
      IsPort port e.port →
      IsDocumented e (opening :: (e.host ++ closing :: colon :: port))
  | named {port : Text} :
      IsPort port e.port →
      IsName e.host →
      IsDocumented e (e.host ++ colon :: port)

/-- Holds of the texts whose part before the last colon is a name or stands in brackets. -/
def IsMarkedOff (text : Text) : Prop :=
  ∃ before port,
    text = before ++ colon :: port ∧ colon ∉ port ∧ (IsName before ∨ IsEnclosed before)

variable {text : Text} {label : String} {e : Endpoint}

theorem IsDocumented.isMarkedOff
    (h : IsDocumented e text) :
    IsMarkedOff text := by
  cases h with
  | bracketed hport =>
      refine ⟨opening :: (e.host ++ [closing]), _, by simp, hport.bare, .inr ?_⟩
      exact isEnclosed_iff.mpr ⟨e.host, rfl⟩
  | named hport hname =>
      exact ⟨e.host, _, rfl, hport.bare, .inl hname⟩

/-- A text has only one last colon. -/
theorem IsMarkedOff.before
    {before port : Text}
    (h : IsMarkedOff (before ++ colon :: port))
    (hport : colon ∉ port) :
    IsName before ∨ IsEnclosed before := by
  obtain ⟨other, rest, hsame, hrest, hmarked⟩ := h
  have hsplit : splitLastColon? (before ++ colon :: port) = some (before, port) :=
    splitLastColon?_append hport
  rw [hsame, splitLastColon?_append hrest] at hsplit
  cases hsplit
  exact hmarked

/--
**Documented forms.**  A text that is read as an endpoint is in one of the two documented forms
exactly where its part before the last colon is a name or stands in brackets.  Any other text that
is read is a host and a port with a colon between them, where the host, which holds colons or
brackets, is not told apart from the port by anything else.
-/
theorem documented_iff_of_ofValue
    (h : ofValue (.text text) label = .ok e) :
    (IsDocumented e text ↔ IsMarkedOff text) ∧
    (¬ IsDocumented e text →
      ¬ IsName e.host ∧ ¬ IsEnclosed e.host ∧
      ∃ port, IsPort port e.port ∧ text = e.host ++ colon :: port) := by
  cases (reads_of_ofValue h).1 with
  | bracketed hport =>
      have hdocumented := IsDocumented.bracketed hport
      exact ⟨iff_of_true hdocumented hdocumented.isMarkedOff, fun hnot => absurd hdocumented hnot⟩
  | bare hport hhost =>
      have hnamed : IsMarkedOff (e.host ++ colon :: _) → IsName e.host := fun hmarked =>
        (hmarked.before hport.bare).resolve_right hhost
      refine ⟨⟨IsDocumented.isMarkedOff, fun hmarked => .named hport (hnamed hmarked)⟩,
        fun hnot => ⟨fun hname => hnot (.named hport hname), hhost, _, hport, rfl⟩⟩

/-- An address in brackets is read in a documented form. -/
theorem documented_iff_of_bracketed_address :
    ofValue (.text "[2001:db8::1]:5060") "source" = .ok ⟨"2001:db8::1", 5060⟩ ∧
    IsMarkedOff "[2001:db8::1]:5060" ∧
    IsDocumented ⟨"2001:db8::1", 5060⟩ "[2001:db8::1]:5060" := by
  have hread : ofValue (.text "[2001:db8::1]:5060") "source" = .ok ⟨"2001:db8::1", 5060⟩ := rfl
  have hmarked : IsMarkedOff "[2001:db8::1]:5060" :=
    ⟨"[2001:db8::1]", "5060", rfl, by decide, .inr (by decide)⟩
  exact ⟨hread, hmarked, (documented_iff_of_ofValue hread).1.mpr hmarked⟩

/-- An address without brackets and without a port is read with its last group as the port. -/
theorem last_group_read_as_port :
    ofValue (.text "2001:db8::1") "source" = .ok ⟨"2001:db8:", 1⟩ ∧
    ¬ ∃ e, IsDocumented e "2001:db8::1" := by
  refine ⟨rfl, ?_⟩
  rintro ⟨e, hdocumented⟩
  have hform : Text.ofString "2001:db8::1" = Text.ofString "2001:db8:" ++ colon :: "1" := rfl
  have hmarked := hdocumented.isMarkedOff
  rw [hform] at hmarked
  rcases hmarked.before (by decide) with hname | henclosed
  · exact hname.colon (by decide)
  · exact absurd henclosed (by decide)

end Forms

end Endpoint
end CallScript
