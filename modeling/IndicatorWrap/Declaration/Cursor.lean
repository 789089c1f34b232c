import IndicatorWrap.Declaration.Extraction

/-!
A place in a token list from which declarations are read step by step. A
reading that gets stuck leaves the cursor at the token it is stuck at, and
reading may go on from there. A cursor may stand behind the last token.
-/

namespace IndicatorWrap

structure Cursor where
  tokens : List Token
  position : Nat
  /-- The function whose name was read last. -/
  function : String

namespace Cursor

variable {α : Type}

def ofTokens (tokens : List Token) : Cursor :=
  ⟨tokens, 0, ""⟩

def ahead (cursor : Cursor) : List Token :=
  cursor.tokens.drop cursor.position

def peek (cursor : Cursor) (offset : Nat) : Option Token :=
  cursor.tokens[cursor.position + offset]?

/-- The cursor moved to where only the given tokens are ahead. -/
def advanceTo (cursor : Cursor) (rest : List Token) : Cursor :=
  { cursor with position := cursor.position + (cursor.ahead.length - rest.length) }

/-- Reads with a reading from the tokens ahead. -/
def read (reader : List Token → Reading α) (cursor : Cursor) : Except Malformed α × Cursor :=
  match reader cursor.ahead with
  | .done value rest => (.ok value, cursor.advanceTo rest)
  | .stuck expected rest =>
    (.error ⟨cursor.function, expected, rest.head?⟩, cursor.advanceTo rest)

def expect (kind : Token.Kind) (expected : Expected) (cursor : Cursor) :
    Except Malformed Token × Cursor :=
  cursor.read (Reading.expect kind expected)

def readPath (cursor : Cursor) : Except Malformed TypePath × Cursor :=
  cursor.read TypePath.read

def readType (cursor : Cursor) : Except Malformed TypeExpr × Cursor :=
  cursor.read TypeExpr.read

def readParameter (cursor : Cursor) : Except Malformed Parameter × Cursor :=
  cursor.read Parameter.read

/-- Reads a declaration whatever its first two tokens are. -/
def readDeclaration (cursor : Cursor) : Except Malformed Signature × Cursor :=
  let cursor := { cursor with position := cursor.position + 2 }
  match cursor.expect .ident .functionName with
  | (.error error, cursor) => (.error error, cursor)
  | (.ok name, cursor) =>
    let cursor := { cursor with function := name.value }
    cursor.read (Signature.readAfter name)

/-- Whether the declaration of an indicator begins here. -/
def atDeclaration (cursor : Cursor) : Bool :=
  (Signature.header? cursor.ahead).isSome

/-- Goes to the end of the next declaration with parameters. -/
def next (cursor : Cursor) : Except Malformed (Option Signature) × Cursor :=
  let pulled := Pull.ofTokens cursor.function cursor.ahead
  (pulled.result, { cursor.advanceTo pulled.rest with function := pulled.function })

end Cursor

end IndicatorWrap
