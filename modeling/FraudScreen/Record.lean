/-!
# Records

How named fields are taken out of a structured text, whatever its format. A record comes either as
named members, of which the known ones may not repeat and the others are ignored, or as a bare list of
values in the order of the fields, which may end early but not run over.
-/
namespace FraudScreen

/-- The known fields of a record, each with its value. -/
structure Fields (ν : Type) where
  values : List (String × ν)

namespace Fields

variable {ν : Type}

/-- Takes the known fields out of named members. -/
def ofMembers? (known : List String) (members : List (String × ν)) : Option (Fields ν) :=
  let found := members.filter (known.contains ·.1)
  if (found.map (·.1)).Nodup then some ⟨found⟩ else none

/-- Takes the fields from a list in field order. -/
def ofItems? (known : List String) (items : List ν) : Option (Fields ν) :=
  if items.length ≤ known.length then some ⟨known.zip items⟩ else none

def get? (f : Fields ν) (name : String) : Option ν := f.values.lookup name

/-- A field that must be there. -/
def required {α : Type} (f : Fields ν) (name : String) (read : ν → Option α) : Option α :=
  (f.get? name).bind read

/-- A field that has a default when it is absent. -/
def withDefault {α : Type} (f : Fields ν) (name : String) (read : ν → Option α) (d : α) : Option α :=
  match f.get? name with
  | some v => read v
  | none => some d

end Fields

/-- A format of structured text, by what its values can be taken for. -/
class Structured (ν : Type) where
  /-- Whether there is no value; `none` if that is said wrongly. -/
  isNull? : ν → Option Bool
  text? : ν → Option String
  bool? : ν → Option Bool
  float? : ν → Option Float
  items? : ν → Option (List ν)
  fields? : List String → ν → Option (Fields ν)

/-- A field that may be absent or null. -/
def Fields.optional {ν α : Type} [Structured ν] (f : Fields ν) (name : String) (read : ν → Option α) :
    Option (Option α) :=
  match f.get? name with
  | some v => do if ← Structured.isNull? v then return none else return some (← read v)
  | none => some none

end FraudScreen
