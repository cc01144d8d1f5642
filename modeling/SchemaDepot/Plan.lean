/-
# Provisioning plans

A plan lists the schemas to apply, in order. What is asked for comes first,
sorted by identifier; the order means nothing. The sentinel comes last and always
comes, so whoever stops at the first failure never creates it.

Key definitions: `Provision`, `Plan.requested`, `Plan.build`.
-/
import SchemaDepot.Scheme

namespace SchemaDepot

/-- One database to create: its identifier and its schema. -/
structure Provision where
  identifier : String
  schema : String
  isSentinel : Bool
deriving DecidableEq

namespace Provision

/-- The text of a value that may be trimmed: nothing at all counts as empty. -/
def textOf (v : Value) : Except Error String :=
  match v with
  | .text s => .ok s
  | v => if v.isTruthy then .error .notText else .ok ""

/-- The provision of an identifier and a schema, neither of them blank. -/
def make (identifier schema : String) (isSentinel : Bool) : Except Error Provision :=
  if Text.isBlank identifier then .error (.value (.required "ProvisionSpec.identifier"))
  else if Text.isBlank schema then .error (.value (.sqlRequired identifier))
  else .ok ⟨identifier, schema, isSentinel⟩

/-- The provision that two values give. -/
def ofValues (identifier schema : Value) (isSentinel : Bool) : Except Error Provision := do
  let x ← textOf identifier
  if Text.isBlank x then .error (.value (.required "ProvisionSpec.identifier"))
  else
    let s ← textOf schema
    make x s isSentinel

end Provision

/-- Schemas in the order they are applied. -/
abbrev Plan := List Provision

namespace Plan

/-- The identifiers that a value asks for: the trimmed texts of its members, the
blank ones left out. -/
def requested (identifiers : Value) : Except Error TextSet := do
  let items ← identifiers.members
  let texts ← items.mapM Value.shown
  .ok (TextSet.ofList ((texts.filter fun x => !Text.isBlank x).map Text.trim))

/-- The provision of one database. -/
def provision (r : Registry) (identifier : String) : Run Provision := do
  let schema ← Scheme.schemaNamed r identifier
  .ofExcept (Provision.make identifier schema false)

/-- The provisions of several databases, one after the other. -/
def provisions (r : Registry) : List String → Run (List Provision)
  | [] => pure []
  | x :: xs => do
    let p ← provision r x
    let ps ← provisions r xs
    pure (p :: ps)

/-- The provision of the sentinel. -/
def sentinelProvision (r : Registry) : Except Error Provision := do
  let schema ← r.catalogue.schema r.catalogue.sentinel
  Provision.make r.catalogue.sentinel schema true

/-- The least identifier that is not among the known ones. -/
def firstUnknown? (known wanted : TextSet) : Option String :=
  wanted.toList.find? fun x => decide (x ∉ known)

/-- What was planned. -/
def record (r : Registry) (plan : Plan) : Log.Record :=
  ⟨.info, .planning, Log.line "testdbs.plan_built"
    [Log.ofNat "entries" plan.length, Log.ofText "sentinel" r.catalogue.sentinel]⟩

/-- The plan for a set of identifiers, which must all be provisionable. -/
def ofSet (r : Registry) (wanted : TextSet) : Run Plan :=
  match firstUnknown? r.provisionable wanted with
  | some x => .fail (.unknownIdentifier x)
  | none => do
    let ps ← provisions r (wanted.difference (TextSet.ofList [r.catalogue.sentinel])).toList
    let last ← Run.ofExcept (sentinelProvision r)
    let plan := ps ++ [last]
    Run.emit (record r plan)
    pure plan

/-- The plan for what a value asks for; nothing asks for everything. -/
def build (r : Registry) (identifiers : Value) : Run Plan :=
  match identifiers with
  | .null => ofSet r r.provisionable
  | v =>
    match requested v with
    | .ok wanted => ofSet r wanted
    | .error e => .fail e

end Plan

end SchemaDepot
