/-!
# Files

What a file holds when it is read as text.
-/
namespace FraudScreen

/-- Why a text could not be read. -/
inductive ReadFault where
  | missing
  | notUtf8
  /-- The place where the text is kept does not answer. -/
  | offline
deriving DecidableEq, Repr

def ReadFault.message : ReadFault → String
  | missing => "No such file or directory (os error 2)"
  | notUtf8 => "stream did not contain valid UTF-8"
  | offline => "source offline"

/-- The bytes of a file, or `none` if there is no such file. -/
abbrev File := Option ByteArray

/-- The text of a file. -/
def File.readText : File → Except ReadFault String
  | none => .error .missing
  | some bytes =>
    match String.fromUTF8? bytes with
    | some s => .ok s
    | none => .error .notUtf8

end FraudScreen
