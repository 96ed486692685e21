import LiveSketch.Number.Decimal

/-!
# Tokens

The words of the sketch language, and the places in source text where they stand.

## Main definitions

* `Place` — a line and a column, both counted from one. A column of zero stands for the whole line.
* `Place.text`, `Place.after` — how a place is shown, and the place after a character.
* `Token` — a word; `Lexeme` — a word and where it starts.
* `LexFault` — why some text is not a word.
* `Token.text` — how a word is shown in messages.
* `Reserved` — words that are set aside and cannot name things.
* `Token.precedence`, `Token.allowsSign` — what the grammar needs to know about a word.

## Implementation notes

Text with values in it is a sequence of words: `Token.piece` for the text before each value, then
the words of the value's block, and `Token.text` for the rest. Reserved words that name built-in
functions may be called, as functions or as methods, but not defined.
-/

namespace LiveSketch

/-- A place in source text. -/
structure Place where
  line : Nat := 1
  column : Nat := 1
deriving DecidableEq, Inhabited

namespace Place

/-- How a place is shown in messages. -/
def text (p : Place) : String := s!"line {p.line}, position {p.column}"

/-- The place after a character. -/
def after (p : Place) (c : Char) : Place :=
  if c = '\n' then ⟨p.line + 1, 1⟩ else { p with column := p.column + 1 }

/-- The place after several characters. -/
def afterAll (p : Place) (cs : List Char) : Place := cs.foldl after p

/-- A place in parentheses, with a blank in front; nothing for no place. -/
def suffix : Option Place → String
  | some p => s!" ({p.text})"
  | none => ""

end Place

/-- Why some text is not a word. -/
inductive LexFault where
  | unexpected (text : String)
  | openText
  | badEscape (text : String)
  | badNumber (text : String)
  | badCharacter (text : String)
  | badName (text : String)
  /-- A symbol of some other language. -/
  | foreignSymbol (symbol advice : String)
deriving DecidableEq, Inhabited

/-- What is wrong with the text. -/
def LexFault.message : LexFault → String
  | unexpected text => s!"Unexpected '{text}'"
  | openText => "Open string is not terminated"
  | badEscape text => s!"Invalid escape sequence: '{text}'"
  | badNumber text => s!"Invalid number: '{text}'"
  | badCharacter text => s!"Invalid character: '{text}'"
  | badName text => s!"Variable name is not proper: '{text}'"
  | foreignSymbol symbol advice =>
    if advice = "" then s!"Invalid symbol encountered: '{symbol}'" else advice

/-- A word of the language. -/
inductive Token where
  | int (n : Int)
  | float (x : Float)
  | char (c : Char)
  /-- A text, or the last piece of one with values in it. -/
  | text (s : String)
  /-- A piece of text in front of a value. -/
  | piece (s : String)
  | name (s : String)
  | reserved (s : String)
  /-- A keyword, operator or punctuation mark. -/
  | mark (s : String)
  | fault (why : LexFault)
  | eof
deriving Inhabited

/-- A word and where it starts. Text that breaks off right after a value has no place. -/
structure Lexeme where
  token : Token
  place : Option Place
deriving Inhabited

/-! ### Reserved words -/

namespace Reserved

/-- Built-in functions that are called by name only. -/
def functions : List String := ["print", "debug", "eval", "Fn", "is_def_fn", "is_def_var"]

/-- Built-in functions that are also called as methods. -/
def methods : List String := ["type_of", "call", "curry", "is_shared"]

/-- Words without a use. -/
def unused : List String :=
  ["this", "public", "protected", "super", "new", "use", "module", "package", "var", "static",
   "shared", "goto", "match", "case", "default", "void", "null", "nil", "spawn", "thread",
   "go", "sync", "async", "await", "yield", "with", "is"]

/-- Symbols without a use. -/
def symbols : List String :=
  ["@", "$", "#", "~", "++", "--", "->", "<-", "===", "!==", "::<", ":=", ":;", "...", "(*", "*)",
   "<|", "|>", "?", "#!"]

/-- Whether a word is set aside. -/
def holds (word : String) : Bool :=
  functions.contains word || methods.contains word || unused.contains word

/-- Whether a reserved word may be called like a function. -/
def callable (word : String) : Bool := functions.contains word || methods.contains word

/-- Whether a reserved word may be called like a method. -/
def callableAsMethod (word : String) : Bool := methods.contains word

end Reserved

/-- Whether a character can begin a name. -/
def isNameStart (c : Char) : Bool := c.isAlpha || c == '_'

/-- Whether a character can continue a name. -/
def isNamePart (c : Char) : Bool := c.isAlphanum || c == '_'

/-- Whether a text is a proper name: after any number of underscores comes a letter. -/
def isProperName (s : String) : Bool :=
  match s.toList.dropWhile (· == '_') with
  | c :: rest => c.isAlpha && rest.all isNamePart
  | [] => false

namespace Token

/-- Words of the grammar. -/
def keywords : List String :=
  ["let", "const", "if", "else", "switch", "do", "while", "until", "loop", "for", "in", "continue",
   "break", "return", "throw", "try", "catch", "import", "export", "as", "fn", "private", "true",
   "false"]

/-- Punctuation and operators, longest first. -/
def marks : List String :=
  ["<<=", ">>=", "**=", "..=", "...", "===", "!==", "::<",
   "()", "#\x7b", "#!", "::", ":=", ":;", "=>", "==", "!=", "<=", ">=", "<-", "->", "<<", ">>", "<|",
   "|>", "&&", "||", "??", "?.", "?[", "+=", "-=", "*=", "/=", "%=", "^=", "&=", "|=", "**", "*)",
   "(*", "++", "--", "..",
   "\x7b", "\x7d", "(", ")", "[", "]", ",", ";", ":", "=", "!", "<", ">", "+", "-", "*", "/", "%", "^",
   "&", "|", ".", "?", "@", "$", "#", "~", "_"]

/-- The operators that assign. -/
def assigning : List String :=
  ["+=", "-=", "*=", "/=", "%=", "**=", "<<=", ">>=", "&=", "|=", "^="]

/-- How a word is shown in messages. -/
def shown : Token → String
  | int n => toString n
  | float x => NumberStyle.hostText.render .double (Binary.ofFloat x)
  | char c => String.singleton c
  | text s => s
  | piece s => s
  | name s => s
  | reserved s => s
  | mark s => s
  | fault why => why.message
  | eof => "EOF"

/-- How strongly an infix operator binds; zero for every other word. -/
def precedence : Token → Nat
  | mark s =>
    if ["||", "^", "|"].contains s then 30
    else if ["&&", "&"].contains s then 60
    else if ["==", "!="].contains s then 90
    else if ["in", "!in"].contains s then 110
    else if ["<", "<=", ">", ">="].contains s then 130
    else if s = "??" then 135
    else if ["..", "..="].contains s then 140
    else if ["+", "-"].contains s then 150
    else if ["/", "*", "%"].contains s then 180
    else if s = "**" then 190
    else if ["<<", ">>"].contains s then 210
    else 0
  | _ => 0

/-- Whether an operator groups to the right. -/
def bindsRight : Token → Bool
  | mark s => s == "**"
  | _ => false

/-- Whether a sign after this word belongs to a number. -/
def allowsSign : Token → Bool
  | mark s =>
    !(["\x7d", ")", "]", "()", "true", "false", "_", "fn", "let", "const", "."].contains s)
  | piece _ => true
  | fault _ => true
  | _ => false

end Token

end LiveSketch
