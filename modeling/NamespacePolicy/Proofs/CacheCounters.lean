import Mathlib.Data.Finset.Card
import NamespacePolicy.Proofs.ValidatorRuns

/-!
The counters of a validator.  A check between different domains is a question to the cache of its
kind, whatever was asked before, and no other call is one.  The counters of a cache go with the
questions to it: together they are as many as the questions, and the misses alone are as many as
the different dependencies among them.
-/

namespace NamespacePolicy.Proofs.CacheCounters

open ValidatorRuns
open Validator (Call)

/-- The check of types that a call makes, if it is one between different namespaces. -/
def typeQuestion? : Call → Option TypeDependency
  | .checkType d => some d |>.filter fun d => d.sourceNamespace ≠ d.targetNamespace
  | .allowsType sn st tn tt =>
      some (.ofSymbols sn st tn tt) |>.filter fun d => d.sourceNamespace ≠ d.targetNamespace
  | _ => none

/-- The check of assemblies that a call makes, if it is one between different assemblies. -/
def assemblyQuestion? : Call → Option AssemblyDependency
  | .checkAssembly d => some d |>.filter fun d => d.source ≠ d.target
  | _ => none

def typeQuestions (calls : List Call) : List TypeDependency := calls.filterMap typeQuestion?

def assemblyQuestions (calls : List Call) : List AssemblyDependency :=
  calls.filterMap assemblyQuestion?

section Cache

variable {κ : Type} {cache : Cache κ} {asked : List κ}

/-- The counters and the entries of a cache are those that the questions to it leave. -/
structure Accounts (cache : Cache κ) (asked : List κ) : Prop where
  counted : cache.hits + cache.misses = asked.length
  stored : cache.misses = cache.entries.length
  apart : (cache.entries.map (·.1)).Nodup
  mem_keys : ∀ key, key ∈ cache.entries.map (·.1) ↔ key ∈ asked

theorem accounts_fresh : Accounts ({} : Cache κ) [] :=
  ⟨rfl, rfl, List.nodup_nil, fun _ => Iff.rfl⟩

variable [DecidableEq κ]

/-- There is one miss for each dependency, however often it was asked about. -/
theorem Accounts.misses_eq_card (h : Accounts cache asked) :
    cache.misses = asked.toFinset.card := by
  have hkeys : asked.toFinset = (cache.entries.map (·.1)).toFinset := by
    ext key
    rw [List.mem_toFinset, List.mem_toFinset, h.mem_keys]
  rw [hkeys, List.toFinset_card_of_nodup h.apart, List.length_map, h.stored]

theorem get?_eq_none_iff {key : κ} :
    cache.get? key = none ↔ key ∉ cache.entries.map (·.1) := by
  rw [Cache.get?, Option.map_eq_none_iff, List.find?_eq_none, List.mem_map]
  constructor
  · rintro hnone ⟨entry, hentry, hkey⟩
    exact hnone entry hentry (beq_iff_eq.mpr hkey)
  · intro hnone entry hentry hkey
    exact hnone ⟨entry, hentry, beq_iff_eq.mp hkey⟩

theorem Accounts.lookup (h : Accounts cache asked) (key : κ) (compute : κ → Verdict) :
    Accounts (cache.lookup key compute).2 (asked ++ [key]) := by
  rw [Cache.lookup]
  cases hfound : cache.get? key with
  | some verdict =>
      have hkey : key ∈ asked := (h.mem_keys key).mp (List.mem_map_of_mem (get?_mem hfound))
      refine ⟨?_, h.stored, h.apart, ?_⟩
      · rw [List.length_append, List.length_singleton, ← h.counted]
        exact Nat.add_right_comm _ _ _
      · intro other
        rw [h.mem_keys, List.mem_append, List.mem_singleton]
        refine ⟨.inl, ?_⟩
        rintro (hother | rfl)
        · exact hother
        · exact hkey
  | none =>
      refine ⟨?_, ?_, ?_, ?_⟩
      · rw [List.length_append, List.length_singleton, ← h.counted]
        rfl
      · rw [List.length_cons, ← h.stored]
      · exact List.nodup_cons.mpr ⟨get?_eq_none_iff.mp hfound, h.apart⟩
      · intro other
        rw [List.map_cons, List.mem_cons, h.mem_keys, List.mem_append, List.mem_singleton]
        exact or_comm

/-- The cache after a question to it, if there is one. -/
def asking (cache : Cache κ) (compute : κ → Verdict) (question : Option κ) : Cache κ :=
  match question with
  | some key => (cache.lookup key compute).2
  | none => cache

theorem Accounts.asking (h : Accounts cache asked) (compute : κ → Verdict)
    (question : Option κ) :
    Accounts (asking cache compute question) (asked ++ question.toList) := by
  cases question with
  | some key => exact h.lookup key compute
  | none => rwa [Option.toList_none, List.append_nil]

end Cache

section Calls

variable (v : Validator)

theorem typeCache_checkType (d : TypeDependency) :
    (v.checkType d).2.typeCache = asking v.typeCache v.policy.typeVerdict
      (some d |>.filter fun d => d.sourceNamespace ≠ d.targetNamespace) := by
  rw [Validator.checkType]
  by_cases hsame : d.sourceNamespace = d.targetNamespace
  · simp [TypeDependency.isInternal, Option.filter, asking, hsame]
  · simp [TypeDependency.isInternal, Option.filter, asking, hsame]

theorem assemblyCache_checkType (d : TypeDependency) :
    (v.checkType d).2.assemblyCache = v.assemblyCache := by
  rw [Validator.checkType]
  split <;> rfl

theorem assemblyCache_checkAssembly (d : AssemblyDependency) :
    (v.checkAssembly d).2.assemblyCache = asking v.assemblyCache v.policy.assemblyVerdict
      (some d |>.filter fun d => d.source ≠ d.target) := by
  rw [Validator.checkAssembly]
  by_cases hsame : d.source = d.target
  · simp [AssemblyDependency.isInternal, Option.filter, asking, hsame]
  · simp [AssemblyDependency.isInternal, Option.filter, asking, hsame]

theorem typeCache_checkAssembly (d : AssemblyDependency) :
    (v.checkAssembly d).2.typeCache = v.typeCache := by
  rw [Validator.checkAssembly]
  split <;> rfl

theorem typeCache_answer (call : Call) :
    (v.answer call).2.typeCache =
      asking v.typeCache v.policy.typeVerdict (typeQuestion? call) := by
  cases call with
  | checkType d => exact typeCache_checkType v d
  | allowsType sn st tn tt => exact typeCache_checkType v (.ofSymbols sn st tn tt)
  | checkAssembly d => exact typeCache_checkAssembly v d
  | unusedTypeRules | unusedAssemblyRules | resetUsage | statistics => rfl

theorem assemblyCache_answer (call : Call) :
    (v.answer call).2.assemblyCache =
      asking v.assemblyCache v.policy.assemblyVerdict (assemblyQuestion? call) := by
  cases call with
  | checkType d => exact assemblyCache_checkType v d
  | allowsType sn st tn tt => exact assemblyCache_checkType v (.ofSymbols sn st tn tt)
  | checkAssembly d => exact assemblyCache_checkAssembly v d
  | unusedTypeRules | unusedAssemblyRules | resetUsage | statistics => rfl

end Calls

/-- Both caches of a validator are as the calls to it leave them. -/
structure Counted (v : Validator) (calls : List Call) : Prop where
  types : Accounts v.typeCache (typeQuestions calls)
  assemblies : Accounts v.assemblyCache (assemblyQuestions calls)

theorem counted_fresh (p : Policy) : Counted { policy := p } [] :=
  ⟨accounts_fresh, accounts_fresh⟩

theorem filterMap_concat {α β : Type} (f : α → Option β) (xs : List α) (x : α) :
    (xs ++ [x]).filterMap f = xs.filterMap f ++ (f x).toList := by
  rw [List.filterMap_append]
  cases hx : f x <;> simp [hx]

section Runs

variable {v : Validator} {before : List Call}

theorem Counted.answer (h : Counted v before) (call : Call) :
    Counted (v.answer call).2 (before ++ [call]) := by
  constructor
  · rw [typeCache_answer, typeQuestions, filterMap_concat]
    exact h.types.asking _ _
  · rw [assemblyCache_answer, assemblyQuestions, filterMap_concat]
    exact h.assemblies.asking _ _

theorem Counted.run (h : Counted v before) (calls : List Call) :
    Counted (v.run calls).2 (before ++ calls) := by
  induction calls generalizing v before with
  | nil => rwa [List.append_nil]
  | cons call calls ih =>
      rw [List.append_cons]
      exact ih (h.answer call)

end Runs

/-- No call is a question to both caches. -/
theorem length_questions_le (calls : List Call) :
    (typeQuestions calls).length + (assemblyQuestions calls).length ≤ calls.length := by
  have hone : ∀ call, (typeQuestion? call).toList.length +
      (assemblyQuestion? call).toList.length ≤ 1 := by
    intro call
    cases call with
    | checkType d | allowsType sn st tn tt => exact Option.length_toList_le
    | checkAssembly d => exact (Nat.zero_add _).trans_le Option.length_toList_le
    | unusedTypeRules | unusedAssemblyRules | resetUsage | statistics => exact Nat.zero_le 1
  induction calls using List.reverseRecOn with
  | nil => exact Nat.le_refl 0
  | append_singleton calls call ih =>
      have hcall := hone call
      simp only [typeQuestions, assemblyQuestions] at ih ⊢
      rw [filterMap_concat, filterMap_concat, List.length_append, List.length_append,
        List.length_append, List.length_singleton]
      omega

/-- After any calls to a new validator the counters of each cache make up the questions to it, and
its misses are both the different ones among them and the entries that it has.  Statistics that are
asked for then say so, and no counter outgrows the calls.  A reset and the checks of the other kind
leave a cache as it is. -/
theorem counters_account_for_questions (p : Policy) (calls : List Call) :
    let v := (Validator.run { policy := p } calls).2
    (v.typeCache.hits + v.typeCache.misses = (typeQuestions calls).length ∧
        v.typeCache.misses = (typeQuestions calls).toFinset.card ∧
        v.typeCache.misses = v.typeCache.entries.length) ∧
      (v.assemblyCache.hits + v.assemblyCache.misses = (assemblyQuestions calls).length ∧
        v.assemblyCache.misses = (assemblyQuestions calls).toFinset.card ∧
        v.assemblyCache.misses = v.assemblyCache.entries.length) ∧
      (∀ rest, (Validator.run { policy := p } (calls ++ .statistics :: rest)).1[calls.length]? =
        some (.counts (v.typeCache.hits, v.typeCache.misses)
          (v.assemblyCache.hits, v.assemblyCache.misses))) ∧
      (typeQuestions calls).length + (assemblyQuestions calls).length ≤ calls.length ∧
      (∀ d, (v.checkAssembly d).2.typeCache = v.typeCache) ∧
      (∀ d, (v.checkType d).2.assemblyCache = v.assemblyCache) ∧
      v.resetUsage.typeCache = v.typeCache ∧ v.resetUsage.assemblyCache = v.assemblyCache := by
  intro v
  have hv : Counted v calls := (counted_fresh p).run calls
  refine ⟨⟨hv.types.counted, hv.types.misses_eq_card, hv.types.stored⟩,
    ⟨hv.assemblies.counted, hv.assemblies.misses_eq_card, hv.assemblies.stored⟩, ?_,
    length_questions_le calls, typeCache_checkAssembly v, assemblyCache_checkType v, rfl, rfl⟩
  intro rest
  rw [getElem?_run, List.getElem?_append_right (Nat.le_refl _), Nat.sub_self, List.take_left]
  rfl

/-- Spellings of the global domain make one dependency, and types tell dependencies apart. -/
example :
    typeQuestions [.allowsType "" "T" "B" "S", .allowsType "<global namespace>" "T" "B" "S",
        .allowsType "" "T" "." "S", .allowsType "." "T" "B" "R"] =
      [⟨.global, "T", ⟨"B"⟩, "S"⟩, ⟨.global, "T", ⟨"B"⟩, "S"⟩, ⟨.global, "T", ⟨"B"⟩, "R"⟩] := by
  decide

end NamespacePolicy.Proofs.CacheCounters
