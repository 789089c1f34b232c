/-!
Tokens of a declaration file. A token keeps its kind, its text and the line on
which it begins.
-/

namespace IndicatorWrap

inductive Token.Kind where
  | ident
  | pathSep
  | arrow
  | openParen
  | closeParen
  | colon
  | comma
  | star
  | semicolon
  /-- What the grammar of declarations has no use for. -/
  | other
  /-- A kind of the caller's own, which no lexeme has. -/
  | custom (name : String)
deriving DecidableEq, Repr

/-- The name of a kind; that of a mark is the mark itself. -/
def Token.Kind.name : Token.Kind → String
  | .ident => "IDENT"
  | .pathSep => "PATH_SEP"
  | .arrow => "ARROW"
  | .openParen => "("
  | .closeParen => ")"
  | .colon => ":"
  | .comma => ","
  | .star => "*"
  | .semicolon => ";"
  | .other => "OTHER"
  | .custom name => name

def Token.Kind.ofName (name : String) : Token.Kind :=
  match name with
  | "IDENT" => .ident
  | "PATH_SEP" => .pathSep
  | "ARROW" => .arrow
  | "(" => .openParen
  | ")" => .closeParen
  | ":" => .colon
  | "," => .comma
  | "*" => .star
  | ";" => .semicolon
  | "OTHER" => .other
  | name => .custom name

theorem Token.Kind.name_ofName (name : String) : (ofName name).name = name := by
  unfold ofName
  split <;> rfl

/-- The kind of a token of one character that is no letter. -/
def Token.Kind.ofMark : Char → Token.Kind
  | '(' => .openParen
  | ')' => .closeParen
  | ':' => .colon
  | ',' => .comma
  | '*' => .star
  | ';' => .semicolon
  | _ => .other

structure Token where
  kind : Token.Kind
  value : String
  line : Int
deriving DecidableEq, Repr

/-- Whether the token is the given word. -/
def Token.isWord (token : Token) (word : String) : Bool :=
  token.kind == .ident && token.value == word

end IndicatorWrap
