import LiveSketch.Script.Library.Number

/-!
# Built-in functions: texts

Looking into texts, cutting them and changing them.

## Main definitions

* `Library.needle?` — a text or a character as a sequence to look for.
* `Library.replaced` — a text with every occurrence of another one replaced.
* `Library.text?` — the functions, by name.

## Implementation notes

Positions count characters. A function that changes a text changes its first argument in place; the
answer is then nothing, or what was cut out. Upper and lower case is told apart for the letters of
the Latin alphabet without accents.
-/

namespace LiveSketch
namespace Library

/-- A text or a character as a sequence to look for. -/
def needle? : Datum → Option (List Char)
  | .text s => some s.toList
  | .char c => some [c]
  | _ => none

/-- A text with every occurrence of another one replaced. The first argument bounds their number. -/
def replaced (needle new : List Char) : Nat → List Char → List Char
  | 0, cs => cs
  | fuel + 1, cs =>
    match Datum.findIn needle cs with
    | none => cs
    | some i => cs.take i ++ new ++ replaced needle new fuel (cs.drop (i + needle.length))

/-- The pieces of a text between the occurrences of another one. The first argument bounds their
number. -/
def splitAt (needle : List Char) : Nat → List Char → List (List Char)
  | 0, cs => [cs]
  | fuel + 1, cs =>
    match Datum.findIn needle cs with
    | none => [cs]
    | some i => cs.take i :: splitAt needle fuel (cs.drop (i + needle.length))

/-- The words of a text between blanks. -/
def wordsOf (cs : List Char) : List (List Char) :=
  let pieces := cs.foldr (fun c (acc : List (List Char)) =>
    if Lexer.isBlank c then [] :: acc
    else match acc with
      | first :: rest => (c :: first) :: rest
      | [] => [[c]]) [[]]
  pieces.filter fun piece => !piece.isEmpty

/-- A text of characters. -/
def textOf (cs : List Char) : Datum := .text (String.ofList cs)

/-- A text filled up to a length by repeating another one. -/
def padded (cs filling : List Char) (length : Int) : List Char :=
  let missing := length.toNat - cs.length
  if filling.isEmpty then cs
  else cs ++ ((List.replicate missing filling).flatten).take missing

/-- Functions of a text alone. -/
def ofText? (name s : String) : Option Answer :=
  let cs := s.toList
  match name with
  | "len" => give (.int cs.length)
  | "is_empty" => give (.bool cs.isEmpty)
  | "bytes" => give (.int s.utf8ByteSize)
  | "chars" => give (.sequence (cs.map .char))
  | "to_upper" => give (textOf (cs.map Char.toUpper))
  | "to_lower" => give (textOf (cs.map Char.toLower))
  | "make_upper" => become (textOf (cs.map Char.toUpper))
  | "make_lower" => become (textOf (cs.map Char.toLower))
  | "trim" => become (textOf (trimmed cs))
  | "clear" => become (.text "")
  | "split" => give (.array ((wordsOf cs).map textOf))
  | "pop" =>
    match cs.getLast? with
    | some c => replyWith (.char c) (textOf cs.dropLast)
    | none => give .unit
  | _ => none

/-- Functions of a text and an integer. -/
def ofTextInt? (name s : String) (n : Int) : Option Answer :=
  let cs := s.toList
  let (first, count) := span cs.length n cs.length
  match name with
  | "get" => give (((position? cs.length n).bind fun i => cs[i]?.map Datum.char).getD .unit)
  | "sub_string" => give (textOf ((cs.drop first).take count))
  | "crop" => become (textOf ((cs.drop first).take count))
  | "truncate" => become (textOf (cs.take n.toNat))
  | "split" =>
    let cut := if 0 ≤ n then min n.toNat cs.length else cs.length - n.natAbs
    give (.array [textOf (cs.take cut), textOf (cs.drop cut)])
  | "pop" =>
    let kept := cs.length - n.toNat
    replyWith (textOf (cs.drop kept)) (textOf (cs.take kept))
  | _ => none

/-- Functions of a text and a text or a character. -/
def ofTextNeedle? (name s : String) (needle : List Char) : Option Answer :=
  let cs := s.toList
  match name with
  | "contains" => give (.bool (Datum.findIn needle cs).isSome)
  | "starts_with" => give (.bool (needle.isPrefixOf cs))
  | "ends_with" => give (.bool (needle.reverse.isPrefixOf cs.reverse))
  | "index_of" => give (.int (((Datum.findIn needle cs).map Int.ofNat).getD (-1)))
  | "remove" => become (textOf (if needle.isEmpty then cs else replaced needle [] cs.length cs))
  | "append" => become (textOf (cs ++ needle))
  | "split" => give (.array ((splitAt needle cs.length cs).map textOf))
  | "split_rev" => give (.array ((splitAt needle cs.length cs).reverse.map textOf))
  | _ => none

/-- Functions of a text and two more arguments. -/
def ofTextTwo? (name s : String) (a b : Datum) : Option Answer :=
  let cs := s.toList
  match name, a, b with
  | "sub_string", .int start, .int length =>
    let (first, count) := span cs.length start length
    give (textOf ((cs.drop first).take count))
  | "crop", .int start, .int length =>
    let (first, count) := span cs.length start length
    become (textOf ((cs.drop first).take count))
  | "set", .int n, .char c =>
    match position? cs.length n with
    | some i => become (textOf (replaceAt cs i c))
    | none => give .unit
  | "pad", .int length, filling =>
    match needle? filling with
    | some filling => become (textOf (padded cs filling length))
    | none => none
  | "replace", a, b =>
    match needle? a, needle? b with
    | some old, some new =>
      become (textOf (if old.isEmpty then cs else replaced old new cs.length cs))
    | _, _ => none
  | _, _, _ => none

/-- The functions of texts. -/
def text? (name : String) (args : List Datum) : Option Answer :=
  match args with
  | [.text s] => ofText? name s
  | [.text s, .int n] => ofTextInt? name s n
  | [.text s, .range start stop closed] =>
    let (first, count) := spanOfRange start stop closed
    if name = "sub_string" || name = "crop" then ofTextTwo? name s (.int first) (.int count)
    else none
  | [.text s, d] =>
    match needle? d with
    | some needle => ofTextNeedle? name s needle
    | none => if name = "append" then become (.text (s ++ d.printed)) else none
  | [.text s, a, b] => ofTextTwo? name s a b
  | [.char c] =>
    match name with
    | "to_upper" => give (.char c.toUpper)
    | "to_lower" => give (.char c.toLower)
    | "make_upper" => become (.char c.toUpper)
    | "make_lower" => become (.char c.toLower)
    | _ => none
  | _ => none

end Library

end LiveSketch
