import FlowRouting.Template

/-!
# References

A reference names a value: a namespace, and behind the first dot a path into what the namespace
stands for.
-/

namespace FlowRouting

/-- A namespace and a path in it. -/
structure Reference where
  scope : String
  field : String
deriving DecidableEq, Repr

namespace Reference

/-- Splits a reference at its first dot; blanks around both sides do not count. -/
def split (reference : String) : Reference :=
  let cs := Text.trim reference.toList
  match Text.splitOnce '.' cs with
  | some (scope, field) => ⟨String.ofList (Text.trim scope), String.ofList (Text.trim field)⟩
  | none => ⟨String.ofList cs, ""⟩

/-- The namespaces that are not those of nodes. -/
def reservedScopes : List String :=
  ["input", "now", "run"]

def isReserved (scope : String) : Bool :=
  reservedScopes.contains scope

end Reference

/-- Variables given one by one: an entry is found under the whole reference, or under its
namespace. -/
def Variables.ofDict (entries : Dict Value) : Variables := fun reference ↦
  let trimmed := reference.trimBlanks
  match entries.get? trimmed with
  | some v => .ok v
  | none =>
    let r := Reference.split trimmed
    match entries.get? r.scope with
    | some v => .ok (v.getPath r.field)
    | none => .error (.unknownVariable trimmed)

end FlowRouting
