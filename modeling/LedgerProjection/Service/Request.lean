import LedgerProjection.Json.Decode
import LedgerProjection.Bytes.Hex

/-!
# Requests and answers

A request is one JSON object naming an operation (`op`) and its arguments. An answer is a JSON
object: the operation's result, or a failure `{"error": kind, "message": text}`.

Arguments are read by name. A required argument that is absent fails with
``missing field `name` ``; a value that does not read fails with the reader's text after the
argument's name. An optional argument may be absent or `null`. Bytes are hexadecimal text
without a prefix.
-/

namespace LedgerProjection

/-- A failed request: the kind of failure and its text. -/
structure Failed where
  kind : String
  message : String
deriving DecidableEq, Repr

namespace Failed

/-- A request the service could not read. -/
def badRequest (message : String) : Failed := ⟨"bad_request", message⟩

/-- The failure as an answer. -/
def toJson (f : Failed) : Json := .obj [("error", .str f.kind), ("message", .str f.message)]

end Failed

/-- The result of an operation, or why it failed. -/
abbrev Answer := Except Failed Json

namespace Request

/-- A required argument. -/
def field {α : Type} (req : Json) (name : String) (d : Decoder α) : Except Failed α :=
  match req.field? name with
  | none => .error (.badRequest ("missing field `" ++ name ++ "`"))
  | some j => (d.run j).mapError fun e => .badRequest (name ++ ": " ++ e.message)

/-- An optional argument: absent or `null` is `none`. -/
def optional {α : Type} (req : Json) (name : String) (d : Decoder α) :
    Except Failed (Option α) :=
  match req.field? name with
  | none => .ok none
  | some .null => .ok none
  | some j => ((d.run j).map some).mapError fun e => .badRequest (name ++ ": " ++ e.message)

/-- An argument that may be absent (`none`); when present, `null` included, it is read by `d`
like a required argument. -/
def present {α : Type} (req : Json) (name : String) (d : Decoder α) :
    Except Failed (Option α) :=
  match req.field? name with
  | none => .ok none
  | some _ => some <$> field req name d

/-- A text argument, or `none` when it is absent or not text. -/
def text? (req : Json) (name : String) : Option String :=
  match req.field? name with
  | some (.str s) => some s
  | _ => none

/-- An argument that is a list when present: absent is the empty list, while `null` or any
other value is read by `d` like a required argument. -/
def listOrEmpty {α : Type} (req : Json) (name : String) (d : Decoder α) :
    Except Failed (List α) :=
  match req.field? name with
  | none => .ok []
  | some j => (Decoder.list d |>.run j).mapError fun e => .badRequest (name ++ ": " ++ e.message)

/-- Bytes given as hexadecimal text. -/
def hexText (name : String) (text : String) : Except Failed (List UInt8) :=
  (Hex.decode text).mapError fun f => .badRequest ("`" ++ name ++ "`: " ++ f.text)

/-- A required argument of bytes in hexadecimal; absent or not text, it is refused with one
message. -/
def hex (req : Json) (name : String) : Except Failed (List UInt8) :=
  match req.field? name with
  | some (.str text) => hexText name text
  | _ => .error (.badRequest ("`" ++ name ++ "` must be a hex string"))

/-- A required argument listing byte strings in hexadecimal. -/
def hexList (req : Json) (name : String) : Except Failed (List (List UInt8)) := do
  (← field req name (Decoder.list Decoder.string)).mapM (hexText name)

end Request

end LedgerProjection
