import RecordQuery.Proofs.Binding
import RecordQuery.Proofs.LetterCase
import RecordQuery.Proofs.Resolution

/-!
# Names that differ in letter case

A registry and a builder take two spellings for one name if their lower-case forms agree. For
spellings that agree letter by letter this fails in one case only, where a word ends in a capital
sigma in one spelling and in a small one in the other.
-/
namespace RecordQuery

universe u

def Expr.withField (name : String) : Expr → Expr
  | comparison _ op literal => comparison name op literal
  | booleanTest _ => booleanTest name
  | negation _ => negation name

def QueryError.withField (name : String) : QueryError → QueryError
  | unknownField _ => unknownField name
  | typeMismatch _ mismatch => typeMismatch name mismatch
  | error => error

def Predicate.withField {R : Type u} (name : String) (predicate : Predicate R) : Predicate R :=
  { predicate with expr := predicate.expr.withField name }

@[simp] theorem Expr.field_withField (name : String) (expr : Expr) :
    (expr.withField name).field = name := by
  cases expr <;> rfl

namespace FieldMapping

variable {R : Type u}

theorem bind_withField (mapping : FieldMapping R) (name : String) (expr : Expr) :
    mapping.bind (expr.withField name) = mapping.bind expr := by
  cases expr <;> rfl

theorem bindAll_withField (name : String) (expr : Expr) (mappings : List (FieldMapping R)) :
    bindAll (expr.withField name) mappings = bindAll expr mappings := by
  induction mappings with
  | nil => rfl
  | cons mapping rest ih => rw [bindAll, bindAll, bind_withField, ih]

end FieldMapping

/-- What it is for two spellings to be one name to every registry and every builder. -/
structure OneName (R : Type u) (a b : String) : Prop where
  resolve_eq (registry : Registry R) : registry.resolve a = registry.resolve b
  contains_eq (registry : Registry R) : registry.contains a = registry.contains b
  bind_ok (registry : Registry R) (expr : Expr) {predicate : Predicate R} :
    registry.bind (expr.withField a) = .ok predicate →
      ∃ other, registry.bind (expr.withField b) = .ok other
        ∧ ∀ record, other.accepts record = predicate.accepts record
  bind_error (registry : Registry R) (expr : Expr) {error : QueryError} :
    registry.bind (expr.withField a) = .error error →
      registry.bind (expr.withField b) = .error (error.withField b)
  mappings_register (builder : RegistryBuilder R) {first second : FieldMapping R} :
    first.name = a → second.name = b → first.shape = second.shape →
      ((builder.register first).register second).mappings
        = builder.mappings.filter (fun earlier => earlier.slot ≠ second.slot) ++ [second]

section Lowercase

variable {R : Type u} {a b : String} (same : Unicode.lowercase a = Unicode.lowercase b)
include same

/-- A term is bound alike by either spelling; a predicate and a refusal name the one they were
asked with. -/
theorem Registry.bind_withField (registry : Registry R) (expr : Expr) :
    registry.bind (expr.withField b)
      = ((registry.bind (expr.withField a)).map (Predicate.withField b)).mapError
          (QueryError.withField b) := by
  rw [bind, bind, Expr.field_withField, Expr.field_withField, ← resolve_congr registry same]
  cases registry.resolve a with
  | none => rfl
  | some mappings =>
    dsimp only
    rw [FieldMapping.bindAll_withField, FieldMapping.bindAll_withField]
    cases FieldMapping.bindAll expr mappings with
    | error mismatch => rfl
    | ok fields => cases expr <;> rfl

theorem oneName_of_lowercase : OneName R a b where
  resolve_eq registry := registry.resolve_congr same
  contains_eq registry := by
    rw [Registry.contains_eq_isSome_resolve, Registry.contains_eq_isSome_resolve,
      registry.resolve_congr same]
  bind_ok registry expr predicate bound := by
    rw [Registry.bind_withField same, bound]
    exact ⟨predicate.withField b, rfl, fun _ => rfl⟩
  bind_error registry expr error refused := by
    rw [Registry.bind_withField same, refused]
    rfl
  mappings_register := by
    intro builder first second spelled respelled shape
    have slot : first.slot = second.slot := by
      rw [FieldMapping.slot, FieldMapping.slot, FieldMapping.key, FieldMapping.key, spelled,
        respelled, same, shape]
    simp [RegistryBuilder.register, RegistryBuilder.sameSlot_eq, slot]

end Lowercase

theorem RegistryBuilder.contains_freeze_register {R : Type u} (mapping : FieldMapping R)
    (name : String) :
    (empty.register mapping).freeze.contains name
      = decide (mapping.key = Unicode.lowercase name) := by
  rw [Registry.contains_eq_isSome_resolve, freeze, Registry.resolve_ofMappings]
  by_cases same : mapping.key = Unicode.lowercase name <;>
    simp [register, empty, nonempty?, same]

/-- Spellings that agree letter by letter are one name if their final capital sigmas stand at the
same places, as they do if all their capital sigmas do. Otherwise no mapping of the one is found by
the other. -/
theorem oneName_of_letterwiseAlike {R : Type u} {a b : String}
    (alike : Unicode.LetterwiseAlike a b) :
    (Unicode.finalSigmas a = Unicode.finalSigmas b → OneName R a b)
      ∧ (Unicode.capitalSigmas a = Unicode.capitalSigmas b
        → Unicode.finalSigmas a = Unicode.finalSigmas b)
      ∧ (Unicode.finalSigmas a ≠ Unicode.finalSigmas b
        → ∀ mapping : FieldMapping R, mapping.name = a
          → (RegistryBuilder.empty.register mapping).freeze.contains a = true
            ∧ (RegistryBuilder.empty.register mapping).freeze.contains b = false) := by
  refine ⟨fun places => ?_, Unicode.finalSigmas_congr alike, fun places mapping spelled => ?_⟩
  · exact oneName_of_lowercase ((Unicode.lowercase_eq_iff alike).2 places)
  · have key : mapping.key = Unicode.lowercase a := by rw [FieldMapping.key, spelled]
    have other : Unicode.lowercase a ≠ Unicode.lowercase b := fun same =>
      places ((Unicode.lowercase_eq_iff alike).1 same)
    rw [RegistryBuilder.contains_freeze_register, RegistryBuilder.contains_freeze_register, key]
    exact ⟨decide_eq_true rfl, decide_eq_false other⟩

/-- The first capital sigma may stand against a small one, for a word goes on after it. -/
theorem oneName_of_sophos :
    Unicode.LetterwiseAlike "ΣΟΦΟΣ_ID" "σοφοΣ_id"
      ∧ Unicode.finalSigmas "ΣΟΦΟΣ_ID" = Unicode.finalSigmas "σοφοΣ_id"
      ∧ OneName Nat "ΣΟΦΟΣ_ID" "σοφοΣ_id" := by
  have alike : Unicode.LetterwiseAlike "ΣΟΦΟΣ_ID" "σοφοΣ_id" := by decide +kernel
  have places : Unicode.finalSigmas "ΣΟΦΟΣ_ID" = Unicode.finalSigmas "σοφοΣ_id" := by
    decide +kernel
  exact ⟨alike, places, (oneName_of_letterwiseAlike alike).1 places⟩

/-- Not all spellings that agree letter by letter are found alike: a word's final sigma is the
exception. -/
theorem not_forall_letterwiseAlike_found :
    ¬ ∀ (a b : String) (mappings : List (FieldMapping Nat)), Unicode.LetterwiseAlike a b →
      (RegistryBuilder.empty.registerAll mappings).freeze.contains a
        = (RegistryBuilder.empty.registerAll mappings).freeze.contains b := by
  intro found
  have alike : Unicode.LetterwiseAlike "ΑΣ" "Ασ" := by decide +kernel
  exact absurd (found "ΑΣ" "Ασ" [.computed "ΑΣ" .integer fun _ => .null] alike) (by decide +kernel)

end RecordQuery
