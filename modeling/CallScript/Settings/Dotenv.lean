import CallScript.Text.Blank

/-!
# Settings files

A settings file assigns texts to names, one assignment a line.  A value may stand in single or
double quotes, may run over several lines inside them, and may refer to other names.  A line that
is no assignment is left out.
-/

namespace CallScript
namespace Dotenv

/-- A name with the value that it is given, if it is given one. -/
abbrev Binding := String × Option String

/-- The blanks inside a line. -/
def isInnerBlank (c : Char) : Bool :=
  Text.isBlank c && c ≠ '\n' && c ≠ '\r'

/-- Holds of every character but a line break. -/
def isInLine (c : Char) : Bool :=
  c ≠ '\n' && c ≠ '\r'

/-- The rest of the text after the current line. -/
def skipLine (cs : List Char) : List Char :=
  (cs.dropWhile isInLine).drop 1

/-- The text after the word `export` and the blanks that must follow it, or the text as it is. -/
def skipExport (cs : List Char) : List Char :=
  let word := "export".toList
  let rest := cs.drop word.length
  if word.isPrefixOf cs && (rest.head?.map isInnerBlank).getD false then
    rest.dropWhile isInnerBlank
  else
    cs

/-- Holds of the characters of a name without quotes. -/
def isNameChar (c : Char) : Bool :=
  c ≠ '=' && c ≠ '#' && !(Text.isBlank c)

/-- A name and what follows it; a comment has no name, and `none` stands for neither. -/
def takeName : List Char → Option (Option (List Char) × List Char)
  | '#' :: rest => some (none, '#' :: rest)
  | '\x27' :: rest =>
      let name := rest.takeWhile (· ≠ '\x27')
      match rest.dropWhile (· ≠ '\x27') with
      | _ :: after => if name.isEmpty then none else some (some name, after)
      | [] => none
  | cs =>
      let name := cs.takeWhile isNameChar
      if name.isEmpty then none else some (some name, cs.dropWhile isNameChar)

/--
The length of a quoted value: up to the first quote that is not escaped.  A backslash escapes the
character after it, which may be anything but a line feed.
-/
def quotedLength? (quote : Char) : List Char → Option Nat
  | [] => none
  | '\\' :: c :: rest =>
      if c = '\n' then none else (quotedLength? quote rest).map (· + 2)
  | c :: rest =>
      if c = quote then
        some 0
      else if c = '\\' then
        none
      else
        (quotedLength? quote rest).map (· + 1)

/-- The character that a backslash and a letter stand for. -/
def escapeOf? (inDouble : Bool) (c : Char) : Option Char :=
  if c = '\\' || c = '\x27' then
    some c
  else if !inDouble then
    none
  else
    [('\x22', '\x22'), ('a', '\x07'), ('b', '\x08'), ('f', '\x0c'), ('n', '\n'), ('r', '\r'),
      ('t', '\t'), ('v', '\x0b')].lookup c

/-- A quoted value with its escapes replaced. -/
def unescape (inDouble : Bool) : List Char → List Char
  | [] => []
  | '\\' :: c :: rest =>
      match escapeOf? inDouble c with
      | some image => image :: unescape inDouble rest
      | none => '\\' :: unescape inDouble (c :: rest)
  | c :: rest => c :: unescape inDouble rest
termination_by cs => cs.length

/-- A line up to a comment that follows a blank, without the blanks at its end. -/
def dropComment : List Char → List Char
  | [] => []
  | c :: rest =>
      if Text.isBlank c && (rest.dropWhile Text.isBlank).head? = some '#' then
        []
      else
        c :: dropComment rest

/-- The list without the members at its end that satisfy the test. -/
def trimEnd (p : Char → Bool) (cs : List Char) : List Char :=
  (cs.reverse.dropWhile p).reverse

/-- A value and what follows it. -/
def takeValue (cs : List Char) : Option (List Char × List Char) :=
  let quotedValue (quote : Char) (rest : List Char) :=
    (quotedLength? quote rest).map fun n =>
      (unescape (quote = '\x22') (rest.take n), rest.drop (n + 1))
  match cs with
  | '\x27' :: rest => quotedValue '\x27' rest
  | '\x22' :: rest => quotedValue '\x22' rest
  | _ =>
      let line := cs.takeWhile isInLine
      some (trimEnd Text.isBlank (dropComment line), cs.dropWhile isInLine)

/--
The text after an equals sign and the blanks behind it.  A comment after blanks is skipped too, so
that the value is empty; without blanks in between, the sign of a comment begins the value.
-/
def skipToValue (cs : List Char) : List Char :=
  let rest := cs.dropWhile isInnerBlank
  if rest.head? = some '#' && rest.length < cs.length then
    rest.dropWhile isInLine
  else
    rest

/-- The text after blanks, perhaps a comment, and the end of a line. -/
def takeLineEnd (cs : List Char) : Option (List Char) :=
  let rest := cs.dropWhile isInnerBlank
  let rest := if rest.head? = some '#' then rest.dropWhile isInLine else rest
  match rest with
  | [] => some []
  | c :: after => if isInLine c then none else some after

/-- One assignment and the rest of the text; a faulty line is skipped from where it goes wrong. -/
def takeBinding (cs : List Char) : Option Binding × List Char :=
  let start := skipExport (cs.dropWhile Text.isBlank)
  match takeName start with
  | none => (none, skipLine start)
  | some (name, rest) =>
      let rest := rest.dropWhile isInnerBlank
      let valued : Option (Option (List Char) × List Char) × List Char :=
        match rest with
        | '=' :: after =>
            let after := skipToValue after
            ((takeValue after).map fun found => (some found.1, found.2), after)
        | _ => (some (none, rest), rest)
      match valued with
      | (none, after) => (none, skipLine after)
      | (some (value, rest), _) =>
          match takeLineEnd rest with
          | none => (none, skipLine rest)
          | some after =>
              (name.map fun n => (String.ofList n, value.map String.ofList), after)

/-- The assignments of a text, within a step bound. -/
def bindingsFrom : Nat → List Char → List Binding
  | 0, _ => []
  | fuel + 1, cs =>
      if (cs.dropWhile Text.isBlank).isEmpty then
        []
      else
        let (binding, rest) := takeBinding cs
        binding.toList ++ bindingsFrom fuel rest

/-- The assignments of a text, in order. -/
def bindings (text : String) : List Binding :=
  bindingsFrom (text.length + 1) text.toList

/-- The list with the binding of a name replaced, or added at the end. -/
def assign (known : List Binding) (name : String) (value : Option String) : List Binding :=
  match known with
  | [] => [(name, value)]
  | (n, v) :: rest => if n = name then (n, value) :: rest else (n, v) :: assign rest name value

/-- A reference after its opening: the name, the text that stands in for it, and the rest. -/
def takeReference (cs : List Char) : Option (List Char × List Char × List Char) :=
  let name := cs.takeWhile fun c => c ≠ '\x7d' && c ≠ ':'
  match cs.dropWhile fun c => c ≠ '\x7d' && c ≠ ':' with
  | '\x7d' :: rest => some (name, [], rest)
  | ':' :: '-' :: rest =>
      match rest.dropWhile (· ≠ '\x7d') with
      | _ :: after => some (name, rest.takeWhile (· ≠ '\x7d'), after)
      | [] => none
  | _ => none

/-- The value with its references replaced by what `find` knows, within a step bound. -/
def expandFrom (find : String → Option String) : Nat → List Char → List Char
  | _, [] => []
  | 0, cs => cs
  | fuel + 1, '$' :: '\x7b' :: rest =>
      match takeReference rest with
      | some (name, standIn, after) =>
          ((find (String.ofList name)).elim standIn String.toList) ++ expandFrom find fuel after
      | none => '$' :: expandFrom find fuel ('\x7b' :: rest)
  | fuel + 1, c :: rest => c :: expandFrom find fuel rest

/-- The value of a name: an earlier assignment wins over the environment; no value is empty. -/
def find (environment : List (String × String)) (known : List Binding)
    (name : String) : Option String :=
  match known.lookup name with
  | some value => some (value.getD "")
  | none => environment.lookup name

/-- The text without one mark of byte order in front. -/
def dropOrderMark (text : String) : String :=
  match text.toList with
  | c :: rest => if c.toNat = 0xfeff then String.ofList rest else text
  | [] => text

/-- The assignments of a text with all references replaced; of equal names the last one counts. -/
def read (environment : List (String × String)) (text : String) : List Binding :=
  (bindings (dropOrderMark text)).foldl
    (fun known binding =>
      let value := binding.2.map fun v =>
        String.ofList (expandFrom (find environment known) v.length v.toList)
      assign known binding.1 value)
    []

end Dotenv
end CallScript
