import SqlMapper.Proofs.Mapper.Serving

/-!
# Bound methods and the statements of a configuration

A method stays bound once it is bound, while the configuration goes on
growing. Nothing is lost by that: statements are only added, and a full id
that finds a statement finds it for good, so a method that was bound earlier is
bound as it would be now. Demanding a method therefore depends on the
registered statements alone and not on what was demanded before.

## Main definitions

* `Configuration.Coherent` — every bound method is bound as it would be now.

## Main results

* `Configuration.stable_coherent` — configurations stay coherent.
* `Configuration.Coherent.run_boundMethod` — demanding a method binds it anew.
* `Configuration.run_boundMethod_eq_ok_iff` — which methods can be bound, and
  to what.
-/

namespace SqlMapper

variable {mapper : MapperDeclaration} {method : MethodDeclaration} {name : String}
  {bound : BoundMethod}

/-- A method is bound to the statement of its full id, if that is of a
recognized kind. -/
theorem MapperDeclaration.bindMethod_eq_ok_iff {statements : Catalogue Statement} :
    mapper.bindMethod statements name = .ok bound ↔
      ∃ method statement, mapper.method? name = some method ∧
        statements.get (mapper.statementId method.name) = .ok statement ∧
        statement.kind ≠ .unknown ∧ bound = mapper.boundTo method statement := by
  unfold bindMethod
  constructor
  · intro h
    rcases hmethod : mapper.method? name with _ | method <;> rw [hmethod] at h
    · cases h
    dsimp only at h
    rcases hget : statements.get (mapper.statementId method.name) with fault | statement <;>
      rw [hget] at h
    · cases h
    dsimp only at h
    split at h
    · cases h
    · next hkind => exact ⟨method, statement, rfl, hget, hkind, (Except.ok.inj h).symm⟩
  · rintro ⟨method, statement, hmethod, hget, hkind, rfl⟩
    rw [hmethod]
    dsimp only
    rw [hget]
    exact if_neg hkind

namespace Configuration

/-! ## Coherent configurations -/

/-- Every method that was bound is bound as it would be now. -/
def Coherent (config : Configuration) : Prop :=
  ∀ typeName known, config.mappers.find? typeName = some known →
    ∀ name bound, known.bound.find? name = some bound →
      known.declaration.bindMethod config.statements name = .ok bound

/-- Binding does not depend on the statements that are added behind. -/
theorem bindMethod_insert {statements statements' : Catalogue Statement} {id : String}
    {statement : Statement} (hinsert : statements.insert id statement = .ok statements')
    (h : mapper.bindMethod statements name = .ok bound) :
    mapper.bindMethod statements' name = .ok bound := by
  obtain ⟨method, found, hmethod, hget, hkind, rfl⟩ := MapperDeclaration.bindMethod_eq_ok_iff.mp h
  have hkept := Catalogue.get_insert_of_get hinsert (mem_toList_append_dot _ _) hget
  exact MapperDeclaration.bindMethod_eq_ok_iff.mpr ⟨method, found, hmethod, hkept, hkind, rfl⟩

/-- Configurations stay coherent. -/
theorem stable_coherent : Stable Coherent where
  statement config statement statements h _ hinsert typeName known hfind name bound hbound :=
    bindMethod_insert hinsert (h typeName known hfind name bound hbound)
  resultMap _ _ _ h _ _ := h
  loaded config resource h := markLoaded_cases config resource fun _ => h
  types _ _ _ h := h
  known config mapper h _ typeName known hfind name bound hbound := by
    rw [Entries.find?_put] at hfind
    split at hfind
    · -- a mapper that is new has no bound methods
      obtain rfl := Option.some.inj hfind
      cases hbound
    · exact h typeName known hfind name bound hbound
  bound config typeName known name bound h hfind _ hbind typeName' known' hfind' name' bound'
      hbound' := by
    rw [Entries.find?_put] at hfind'
    split at hfind'
    · obtain rfl := Option.some.inj hfind'
      rw [Entries.find?_put] at hbound'
      split at hbound'
      · next hname =>
          obtain rfl := Option.some.inj hbound'
          exact hname ▸ hbind
      · exact h typeName known hfind name' bound' hbound'
    · exact h typeName' known' hfind' name' bound' hbound'

theorem coherent_after (settings : Settings) (types : TypeSystem) (changes : List Change) :
    (({ settings, types } : Configuration).after changes).Coherent :=
  stable_coherent.after changes fun _ _ hfind => nomatch hfind

/-- Demanding a method of a known mapper binds it anew or gives what that would
give. -/
theorem Coherent.run_boundMethod {config : Configuration} (h : config.Coherent)
    (hknown : config.Knows mapper) (name : String) :
    ((boundMethod mapper.typeName name).run config).1 =
      mapper.bindMethod config.statements name := by
  obtain ⟨known, hfind, rfl⟩ := hknown
  have hmapper : config.mapper known.declaration.typeName = .ok known := by
    rw [Configuration.mapper, hfind]
  rw [boundMethod, run_bind_of_ok (run_get config), hmapper,
    run_bind_of_ok (run_lift (Except.ok known) config)]
  rcases hbound : known.bound.find? name with _ | bound
  · rcases known.declaration.bindMethod config.statements name with fault | bound <;> rfl
  · exact (h _ known hfind name bound hbound).symm

/-! ## Configurations with a history -/

/-- A declared method of a known mapper can be bound exactly if a statement of
a recognized kind is listed under its full id, and it is bound to that. -/
theorem run_boundMethod_eq_ok_iff {settings : Settings} {types : TypeSystem}
    {changes : List Change} {config : Configuration}
    (hconfig : config = ({ settings, types } : Configuration).after changes)
    (hknown : config.Knows mapper) (hmethod : mapper.method? name = some method) :
    ((boundMethod mapper.typeName name).run config).1 = .ok bound ↔
      ∃ statement ∈ config.statements.values, statement.id = mapper.statementId method.name ∧
        statement.kind ≠ .unknown ∧ bound = mapper.boundTo method statement := by
  have hcoherent : config.Coherent := hconfig ▸ coherent_after settings types changes
  rw [hcoherent.run_boundMethod hknown, MapperDeclaration.bindMethod_eq_ok_iff]
  constructor
  · rintro ⟨found, statement, hfound, hget, hkind, rfl⟩
    obtain rfl := Option.some.inj (hfound.symm.trans hmethod)
    obtain ⟨hmem, hid⟩ := (get_eq_ok_iff_mem hconfig (mem_toList_append_dot _ _)).mp hget
    exact ⟨statement, hmem, hid, hkind, rfl⟩
  · rintro ⟨statement, hmem, hid, hkind, rfl⟩
    have hget := (get_eq_ok_iff_mem hconfig (mem_toList_append_dot _ _)).mpr ⟨hmem, hid⟩
    exact ⟨method, statement, hmethod, hget, hkind, rfl⟩

end Configuration

end SqlMapper
