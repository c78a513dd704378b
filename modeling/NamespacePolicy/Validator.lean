import NamespacePolicy.Number.Binary64
import NamespacePolicy.Verdict

/-!
A validator answers many questions about one policy.  It remembers its verdicts, counts how often
that helped, and keeps track of the allow rules that were ever decisive.
-/

namespace NamespacePolicy

/-- Verdicts by dependency, with the number of questions that were and were not answered from
them. -/
structure Cache (κ : Type) where
  entries : List (κ × Verdict) := []
  hits : Nat := 0
  misses : Nat := 0
deriving DecidableEq

namespace Cache

variable {κ : Type} [DecidableEq κ]

def get? (cache : Cache κ) (key : κ) : Option Verdict :=
  (cache.entries.find? fun entry => entry.1 == key).map (·.2)

/-- The remembered verdict, or else the one that `compute` gives, which is then remembered. -/
def lookup (cache : Cache κ) (key : κ) (compute : κ → Verdict) : Verdict × Cache κ :=
  match cache.get? key with
  | some verdict => (verdict, { cache with hits := cache.hits + 1 })
  | none =>
      let verdict := compute key
      (verdict, { cache with
        entries := (key, verdict) :: cache.entries, misses := cache.misses + 1 })

/-- The share of questions answered from the cache, as a percentage with three decimals. -/
def efficiencyText (cache : Cache κ) : String :=
  let asked := cache.hits + cache.misses
  let share := if asked = 0 then .ofNat 0 else Binary64.ofFraction false (cache.hits * 100) asked
  let thousandths := share.thousandths
  let decimals := toString (thousandths % 1000)
  toString (thousandths / 1000) ++ "." ++
    String.ofList (List.replicate (3 - decimals.length) '0') ++ decimals

end Cache

structure Validator where
  policy : Policy
  typeCache : Cache TypeDependency := {}
  assemblyCache : Cache AssemblyDependency := {}
  usedTypeRules : List Rule := []
  usedAssemblyRules : List Rule := []
deriving DecidableEq

namespace Validator

def markUsed (used rules : List Rule) (index : Option Nat) : List Rule :=
  match index.bind (rules[·]?) with
  | some rule => if rule ∈ used then used else rule :: used
  | none => used

/-- The status of a dependency between types; one inside a namespace is not even looked up. -/
def checkType (v : Validator) (d : TypeDependency) : Status × Validator :=
  if d.isInternal then (.allowed, v)
  else
    let (verdict, typeCache) := v.typeCache.lookup d v.policy.typeVerdict
    (verdict.status, { v with
      typeCache, usedTypeRules := markUsed v.usedTypeRules v.policy.allowRules verdict.rule })

def checkAssembly (v : Validator) (d : AssemblyDependency) : Status × Validator :=
  if d.isInternal then (.allowed, v)
  else
    let (verdict, assemblyCache) := v.assemblyCache.lookup d v.policy.assemblyVerdict
    (verdict.status, { v with
      assemblyCache
      usedAssemblyRules := markUsed v.usedAssemblyRules v.policy.allowAssembly verdict.rule })

/-- The allow rules that were not decisive since the last reset, in the order of the policy. -/
def unusedTypeRules (v : Validator) : List Rule :=
  v.policy.allowRules.filter fun rule => rule ∉ v.usedTypeRules

def unusedAssemblyRules (v : Validator) : List Rule :=
  v.policy.allowAssembly.filter fun rule => rule ∉ v.usedAssemblyRules

/-- Forgets which rules were decisive, but no verdict. -/
def resetUsage (v : Validator) : Validator :=
  { v with usedTypeRules := [], usedAssemblyRules := [] }

def allowsType (v : Validator) (sourceNamespace sourceType targetNamespace targetType : String) :
    Bool × Validator :=
  let (status, v) := v.checkType (.ofSymbols sourceNamespace sourceType targetNamespace targetType)
  (status.isAllowed, v)

inductive Call where
  | checkType (d : TypeDependency)
  | allowsType (sourceNamespace sourceType targetNamespace targetType : String)
  | checkAssembly (d : AssemblyDependency)
  | unusedTypeRules
  | unusedAssemblyRules
  | resetUsage
  | statistics
deriving DecidableEq, Repr

inductive Answer where
  | status (status : Status)
  | truth (value : Bool)
  | rules (rules : List Rule)
  | counts (types assemblies : Nat × Nat)
  | done
deriving DecidableEq

def answer (v : Validator) : Call → Answer × Validator
  | .checkType d => (v.checkType d).map .status id
  | .allowsType sn st tn tt => (v.allowsType sn st tn tt).map .truth id
  | .checkAssembly d => (v.checkAssembly d).map .status id
  | .unusedTypeRules => (.rules v.unusedTypeRules, v)
  | .unusedAssemblyRules => (.rules v.unusedAssemblyRules, v)
  | .resetUsage => (.done, v.resetUsage)
  | .statistics =>
      (.counts (v.typeCache.hits, v.typeCache.misses)
        (v.assemblyCache.hits, v.assemblyCache.misses), v)

def run (v : Validator) : List Call → List Answer × Validator
  | [] => ([], v)
  | call :: calls =>
      let (answer, v) := v.answer call
      let (answers, v) := run v calls
      (answer :: answers, v)

end Validator

end NamespacePolicy
