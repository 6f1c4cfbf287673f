-- What is rendered: a list of tokens in the order of the text. A token is a
-- text of some kind, or a mark where a display group starts or ends.
import CiteStyle.Output.Formatting

namespace CiteStyle

/-! ## Tokens -/

/-- What a text stands for. -/
inductive TokenKind where
  | plain
  | before
  | behind
  | openQuote
  | closeQuote
  | delimiter
  | url
  | doi
  deriving DecidableEq, Repr

/-- The names of the kinds. -/
def TokenKind.names : List (String × TokenKind) :=
  [("plain", .plain), ("prefix", .before), ("suffix", .behind), ("open-quote", .openQuote),
   ("close-quote", .closeQuote), ("delimiter", .delimiter), ("url", .url), ("doi", .doi)]

/-- The kind that a name stands for. -/
def TokenKind.ofName? (name : String) : Option TokenKind := names.lookup name

/-- The name of a kind. -/
def TokenKind.name : TokenKind → String
  | .plain => "plain"
  | .before => "prefix"
  | .behind => "suffix"
  | .openQuote => "open-quote"
  | .closeQuote => "close-quote"
  | .delimiter => "delimiter"
  | .url => "url"
  | .doi => "doi"

/-- A piece of output. -/
inductive Token where
  | text (kind : TokenKind) (text : String) (formatting : Formatting)
  | displayStart (display : Display)
  | displayEnd (display : Display)
  deriving DecidableEq, Repr

namespace Token

/-- A text with no formatting. -/
def ofText (kind : TokenKind) (s : String) : Token := .text kind s .unset

/-- The text of a token; marks have none. -/
def content : Token → String
  | .text _ s _ => s
  | _ => ""

/-- A text of a given kind. -/
def isOfKind (kind : TokenKind) : Token → Bool
  | .text k _ _ => k = kind
  | _ => false

/-- A text that is empty. -/
def isEmptyText : Token → Bool
  | .text _ s _ => s = ""
  | _ => false

/-- Change the text of a token. -/
def mapText (f : String → String) : Token → Token
  | .text kind s formatting => .text kind (f s) formatting
  | t => t

/-- Lay the formatting of a token over an outer one. -/
def wrap (outer : Formatting) : Token → Token
  | .text kind s formatting => .text kind s (outer.merge formatting)
  | t => t

end Token

/-! ## Buffers -/

/-- Rendered output. -/
abbrev Buffer := List Token

namespace Buffer

/-- The buffer of one text, or an empty one if the text is empty. -/
def ofText (kind : TokenKind) (s : String) : Buffer := if s = "" then [] else [.ofText kind s]

/-- Add a text at the end, unless it is empty. -/
def appendText (b : Buffer) (kind : TokenKind) (s : String) : Buffer := b ++ ofText kind s

/-- Add a text in front, unless it is empty. -/
def prependText (b : Buffer) (kind : TokenKind) (s : String) : Buffer := ofText kind s ++ b

/-- The last token, if it is a text of a kind, and the buffer without it. -/
def trimLast (kind : TokenKind) (b : Buffer) : Option Token × Buffer :=
  match b.getLast? with
  | some t => if t.isOfKind kind then (some t, b.dropLast) else (none, b)
  | none => (none, b)

/-- The first token, if it is a text of a kind, and the buffer without it. -/
def trimFirst (kind : TokenKind) : Buffer → Option Token × Buffer
  | t :: rest => if t.isOfKind kind then (some t, rest) else (none, t :: rest)
  | [] => (none, [])

/-- Change every text, and drop those that are empty then. -/
def mapText (f : String → String) (b : Buffer) : Buffer :=
  (b.map (·.mapText f)).filter (!·.isEmptyText)

/-- Lay the formatting of every text over an outer one. -/
def wrap (outer : Formatting) (b : Buffer) : Buffer := b.map (·.wrap outer)

/-- The texts one after the other. -/
def plainText (b : Buffer) : String := String.join (b.map Token.content)

/-- Add a buffer at the end, after a delimiter if something stands in front. An empty one adds
nothing. -/
def appendItem (delimiter : String) (b item : Buffer) : Buffer :=
  if item.isEmpty then b
  else if b.isEmpty then item
  else b.appendText .delimiter delimiter ++ item

/-- Several buffers one after the other, with a delimiter between them. -/
def joinWith (delimiter : String) : List Buffer → Buffer
  | [] => []
  | [b] => b
  | b :: rest => b ++ ofText .delimiter delimiter ++ joinWith delimiter rest

/-- The buffers that are not empty one after the other, with a delimiter between them. -/
def joinFilled (delimiter : String) (buffers : List Buffer) : Buffer :=
  joinWith delimiter (buffers.filter (!·.isEmpty))

end Buffer

end CiteStyle
