import SqlMapper.Proofs.Configuration.Loading

/-!
# Loading in any order

What a mapper file registers depends on the configuration in two ways only: on
its settings and types, which no file changes, and on what the references of
its statements find. A reference is a full id, and what a full id finds it
finds for good. So a file that can be loaded both before and after other files
registers the same in both cases, and two files that can be loaded in either
order register the same entries, only in another order. What a name finds does
not depend on the order.

The proof compares two runs: the same file is loaded into a configuration and
into one that has grown since, and both grow by the same additions.

## Main definitions

* `Additions`, `Configuration.Grows` — what was registered, and that nothing
  else was changed.
* `Configuration.Covers` — another configuration finds no less.
* `Configuration.GrowAlike` — two configurations grew by the same additions.

## Main results

* `Configuration.couples_loadMapper` — a file registers the same in a
  configuration that finds no less.
* `Configuration.Grows.answers_comm` — the order of two additions does not
  matter for what is found.
* `Configuration.loadMapper_comm` — neither does the order of two files.
-/

namespace SqlMapper

/-- What a configuration can grow by. -/
structure Additions where
  statements : Entries Statement := []
  resultMaps : Entries ResultMap := []
  loaded : List String := []

/-- First some additions and then others. -/
def Additions.append (added more : Additions) : Additions where
  statements := added.statements ++ more.statements
  resultMaps := added.resultMaps ++ more.resultMaps
  loaded := added.loaded ++ more.loaded

namespace Configuration

/-! ## Growing -/

/-- From the one configuration to the other these entries were registered and
these documents loaded, and the settings and the types stayed. -/
structure Grows (before : Configuration) (added : Additions) (after : Configuration) : Prop where
  statements : before.statements.Extends added.statements after.statements
  resultMaps : before.resultMaps.Extends added.resultMaps after.resultMaps
  loaded : after.loaded = before.loaded ++ added.loaded
  settings : after.settings = before.settings
  types : after.types = before.types

/-- The other configuration has the same settings and types, and full ids find
no less result maps in it. -/
structure Covers (config wider : Configuration) : Prop where
  settings : wider.settings = config.settings
  types : wider.types = config.types
  resultMaps : config.resultMaps.KeptBy wider.resultMaps

variable {before between after wider after' config : Configuration} {added more : Additions}

theorem Covers.refl : config.Covers config := ⟨rfl, rfl, .refl⟩

namespace Grows

theorem refl : config.Grows {} config where
  statements := .refl
  resultMaps := .refl
  loaded := (List.append_nil _).symm
  settings := rfl
  types := rfl

theorem trans (h : before.Grows added between) (h' : between.Grows more after) :
    before.Grows (added.append more) after where
  statements := h.statements.trans h'.statements
  resultMaps := h.resultMaps.trans h'.resultMaps
  loaded := by
    rw [h'.loaded, h.loaded]
    exact List.append_assoc ..
  settings := h'.settings.trans h.settings
  types := h'.types.trans h.types

/-- A configuration that has grown finds no less. -/
theorem covers (h : before.Grows added after) : before.Covers after :=
  ⟨h.settings, h.types, h.resultMaps.keptBy⟩

theorem isLoaded_eq (h : before.Grows added after) (resource : String) :
    after.isLoaded resource = (before.isLoaded resource || added.loaded.contains resource) := by
  unfold isLoaded
  rw [h.loaded, Bool.eq_iff_iff]
  simp

/-- A registered statement is an addition. -/
theorem statement {id : String} {statement : Statement} {statements : Catalogue Statement}
    (hid : '.' ∈ id.toList) (hinsert : config.statements.insert id statement = .ok statements) :
    config.Grows { statements := [(id, statement)] } { config with statements } :=
  { refl with statements := .insert .refl hid hinsert }

/-- A registered result map is an addition. -/
theorem resultMap {id : String} {resultMap : ResultMap} {resultMaps : Catalogue ResultMap}
    (hid : '.' ∈ id.toList) (hinsert : config.resultMaps.insert id resultMap = .ok resultMaps) :
    config.Grows { resultMaps := [(id, resultMap)] } { config with resultMaps } :=
  { refl with resultMaps := .insert .refl hid hinsert }

/-- A document that was not loaded before is an addition. -/
theorem markLoaded {resource : String} (hfresh : config.isLoaded resource = false) :
    config.Grows { loaded := [resource] } (config.markLoaded resource) := by
  unfold Configuration.markLoaded
  rw [if_neg (by simp [hfresh])]
  exact { refl with loaded := rfl }

/-- After two additions every name finds the same, in whatever order they were
made. -/
theorem answers_comm (h : config.Grows (added.append more) after)
    (h' : config.Grows (more.append added) after') :
    (∀ name, after.statements.get name = after'.statements.get name) ∧
      (∀ name, after.resultMaps.get name = after'.resultMaps.get name) ∧
      ∀ resource, after.isLoaded resource = after'.isLoaded resource := by
  refine ⟨?_, ?_, ?_⟩
  · exact h.statements.get_perm h'.statements List.perm_append_comm
  · exact h.resultMaps.get_perm h'.resultMaps List.perm_append_comm
  · intro resource
    have hperm : (added.loaded ++ more.loaded).Perm (more.loaded ++ added.loaded) :=
      List.perm_append_comm
    rw [h.isLoaded_eq, h'.isLoaded_eq]
    exact congrArg (config.isLoaded resource || ·) hperm.contains_eq

end Grows

/-! ## Growing alike -/

/-- Two configurations have grown by the same additions, with no other document
loaded than this one. -/
def GrowAlike (resource : String) (base wider config config' : Configuration) : Prop :=
  ∃ added : Additions, (∀ other ∈ added.loaded, other = resource) ∧
    base.Grows added config ∧ wider.Grows added config'

namespace GrowAlike

variable {resource : String} {base config' : Configuration}

theorem refl : GrowAlike resource base wider base wider :=
  ⟨{}, nofun, .refl, .refl⟩

theorem types_eq (hcovers : base.Covers wider) (h : GrowAlike resource base wider config config') :
    config.types = config'.types := by
  obtain ⟨added, -, hbase, hwider⟩ := h
  rw [hbase.types, hwider.types, hcovers.types]

theorem settings_eq (hcovers : base.Covers wider)
    (h : GrowAlike resource base wider config config') : config.settings = config'.settings := by
  obtain ⟨added, -, hbase, hwider⟩ := h
  rw [hbase.settings, hwider.settings, hcovers.settings]

/-- Configurations that have grown alike still find no less. -/
theorem keptBy (hcovers : base.Covers wider) (h : GrowAlike resource base wider config config') :
    config.resultMaps.KeptBy config'.resultMaps := by
  obtain ⟨added, -, hbase, hwider⟩ := h
  exact hcovers.resultMaps.extends hbase.resultMaps hwider.resultMaps

/-- They grow alike further by the same additions. -/
theorem trans (h : GrowAlike resource base wider config config')
    (hmore : ∀ other ∈ more.loaded, other = resource) (hconfig : config.Grows more after)
    (hconfig' : config'.Grows more after') : GrowAlike resource base wider after after' := by
  obtain ⟨added, hadded, hbase, hwider⟩ := h
  refine ⟨added.append more, ?_, hbase.trans hconfig, hwider.trans hconfig'⟩
  intro other hmem
  rcases List.mem_append.mp hmem with hmem | hmem
  · exact hadded other hmem
  · exact hmore other hmem

/-- They agree on what is loaded if they did before. -/
theorem isLoaded_eq (hloaded : base.isLoaded resource = wider.isLoaded resource)
    (h : GrowAlike resource base wider config config') :
    config.isLoaded resource = config'.isLoaded resource := by
  obtain ⟨added, -, hbase, hwider⟩ := h
  rw [hbase.isLoaded_eq, hwider.isLoaded_eq, hloaded]

/-- Other documents count as loaded as before. -/
theorem isLoaded_other {other : String} (hother : other ≠ resource)
    (h : GrowAlike resource base wider config config') :
    config.isLoaded other = base.isLoaded other := by
  obtain ⟨added, hadded, hbase, -⟩ := h
  have hnone : added.loaded.contains other = false := by
    rw [← Bool.not_eq_true, List.contains_iff_mem]
    exact fun hmem => hother (hadded other hmem)
  rw [hbase.isLoaded_eq, hnone, Bool.or_false]

end GrowAlike

/-! ## What a file registers -/

section Loading

variable {resource : String} {base : Configuration} (hcovers : base.Covers wider)
  (assistant : Assistant)

include hcovers in
/-- A statement is registered alike: its references find the same. -/
theorem couples_addStatement (name : String) (sql : CompiledSql) (kind : StatementKind)
    (parameterType : Option ValueType) (references : Option String)
    (resultType : Option ValueType) :
    Couples (GrowAlike resource base wider)
      (assistant.addStatement name sql kind parameterType references resultType) := by
  intro config config' after after' _ _ halike hrun hrun'
  obtain ⟨id, maps, statements, hid, hmaps, hinsert, rfl⟩ := Assistant.addStatement_ok hrun
  obtain ⟨id', maps', statements', hid', hmaps', hinsert', rfl⟩ := Assistant.addStatement_ok hrun'
  obtain rfl : id = id' := Except.ok.inj (hid.symm.trans hid')
  have hsame := Assistant.resultMapsOf_of_keptBy (halike.keptBy hcovers) hmaps
  obtain rfl : maps = maps' := Except.ok.inj (hsame.symm.trans hmaps')
  have hdot := Assistant.dot_mem_of_elementId hid
  refine ⟨rfl, halike.trans ?_ (.statement hdot hinsert) (.statement hdot hinsert')⟩
  exact List.forall_mem_nil _

theorem couples_addResultMap (name : String) (type : ValueType) (mappings : List ResultMapping)
    (autoMapping : Option Bool) :
    Couples (GrowAlike resource base wider)
      (assistant.addResultMap name type mappings autoMapping) := by
  intro config config' after after' _ _ halike hrun hrun'
  obtain ⟨id, resultMaps, hid, hinsert, rfl⟩ := Assistant.addResultMap_ok hrun
  obtain ⟨id', resultMaps', hid', hinsert', rfl⟩ := Assistant.addResultMap_ok hrun'
  obtain rfl : id = id' := Except.ok.inj (hid.symm.trans hid')
  have hdot := Assistant.dot_mem_of_elementId hid
  refine ⟨rfl, halike.trans ?_ (.resultMap hdot hinsert) (.resultMap hdot hinsert')⟩
  exact List.forall_mem_nil _

include hcovers in
theorem couples_compile (template : String) (parameterType : Option ValueType) :
    Couples (GrowAlike resource base wider) (Assistant.compile template parameterType) := by
  refine .get_bind (fun config config' halike => ?_) fun config => couples_lift _
  rw [halike.types_eq hcovers, halike.settings_eq hcovers]

include hcovers in
/-- An element of a document is registered alike. -/
theorem couples_register (element : Element) :
    Couples (GrowAlike resource base wider) (element.register assistant) := by
  cases element with
  | resultMap entry =>
      refine .get_bind (fun config config' halike => ?_) fun config => ?_
      · rw [halike.types_eq hcovers]
      · refine .bind (couples_lift _) fun type => ?_
        refine .bind (.mapM fun mapping _ => couples_lift _) fun mappings => ?_
        exact couples_addResultMap assistant _ _ _ _
  | statement entry =>
      unfold Element.register MapperFile.loadStatement
      dsimp only
      split
      · exact couples_pure _
      · refine .get_bind (fun config config' halike => ?_) fun config => ?_
        · rw [halike.types_eq hcovers]
        · refine .bind (couples_lift _) fun parameterType => ?_
          refine .bind (couples_lift _) fun resultType => ?_
          refine .bind (couples_compile hcovers _ _) fun sql => ?_
          exact couples_addStatement hcovers assistant _ _ _ _ _ _
  | method declared =>
      unfold Element.register MapperDeclaration.registerMethod
      dsimp only
      split
      · exact couples_pure _
      · refine .bind (couples_compile hcovers _ _) fun sql => ?_
        exact couples_addStatement hcovers assistant _ _ _ _ _ _

/-- A document counts as loaded alike. -/
theorem GrowAlike.markLoaded {config' : Configuration}
    (hloaded : base.isLoaded resource = wider.isLoaded resource)
    (h : GrowAlike resource base wider config config') :
    GrowAlike resource base wider (config.markLoaded resource) (config'.markLoaded resource) := by
  have hsame := h.isLoaded_eq hloaded
  rcases hfresh : config.isLoaded resource with _ | _ <;> rw [hfresh] at hsame
  · refine h.trans ?_ (.markLoaded hfresh) (.markLoaded hsame.symm)
    exact fun other hmem => List.mem_singleton.mp hmem
  · rw [Configuration.markLoaded, if_pos hfresh, Configuration.markLoaded, if_pos hsame.symm]
    exact h

/-- A mapper file registers the same in a configuration and in one that finds
no less, if it can be loaded into both. -/
theorem couples_loadMapper (content : String) (hcovers : base.Covers wider)
    (hloaded : base.isLoaded resource = wider.isLoaded resource) :
    Couples (GrowAlike resource base wider) (loadMapper content resource) := by
  refine .bind (couples_lift _) fun file => ?_
  refine .get_bind (fun config config' halike => ?_) fun config => ?_
  · rw [halike.isLoaded_eq hloaded]
  · split
    · exact couples_pure _
    · refine .bind (couples_lift _) fun assistant => ?_
      refine .bind ?_ fun _ => .bind ?_ fun _ => ?_
      · exact .forM fun entry _ => couples_register hcovers assistant (.resultMap entry)
      · exact .forM fun entry _ => couples_register hcovers assistant (.statement entry)
      · exact couples_modify fun config config' halike => halike.markLoaded hloaded

end Loading

/-! ## Two files -/

/-- Two mapper files that can be loaded in either order: whatever they contain,
every name finds the same statement and the same result map afterwards, or
none for the same reason, and the same documents count as loaded. -/
theorem loadMapper_comm {content content' resource resource' : String}
    {config after after' : Configuration} (hne : resource ≠ resource')
    (h : (do loadMapper content resource; loadMapper content' resource' : Configure Unit).run
      config = (.ok (), after))
    (h' : (do loadMapper content' resource'; loadMapper content resource : Configure Unit).run
      config = (.ok (), after')) :
    (∀ name, after.statements.get name = after'.statements.get name) ∧
      (∀ name, after.resultMaps.get name = after'.resultMaps.get name) ∧
      ∀ document, after.isLoaded document = after'.isLoaded document := by
  obtain ⟨_, first, hfirst, hsecond⟩ := exists_of_run_bind_ok h
  obtain ⟨_, first', hfirst', hsecond'⟩ := exists_of_run_bind_ok h'
  -- each file on its own: what the other one finds afterwards is no less
  obtain ⟨-, hgrow⟩ := couples_loadMapper content .refl rfl _ _ _ _ _ _ .refl hfirst hfirst
  obtain ⟨-, hgrow'⟩ := couples_loadMapper content' .refl rfl _ _ _ _ _ _ .refl hfirst' hfirst'
  have hloaded : config.isLoaded resource = first'.isLoaded resource :=
    (hgrow'.isLoaded_other hne).symm
  have hloaded' : config.isLoaded resource' = first.isLoaded resource' :=
    (hgrow.isLoaded_other hne.symm).symm
  obtain ⟨_, -, hgrows, -⟩ := hgrow
  obtain ⟨_, -, hgrows', -⟩ := hgrow'
  -- so each file registers the same before and after the other one
  obtain ⟨-, added, -, hbefore, hafter⟩ :=
    couples_loadMapper content hgrows'.covers hloaded _ _ _ _ _ _ .refl hfirst hsecond'
  obtain ⟨-, added', -, hbefore', hafter'⟩ :=
    couples_loadMapper content' hgrows.covers hloaded' _ _ _ _ _ _ .refl hfirst' hsecond
  exact (hbefore.trans hafter').answers_comm (hbefore'.trans hafter)

/-- Loads a mapper file with the statement `count` for each of two namespaces. -/
def loadCounts (first second : String) : Configure Unit := do
  let content (namespaceName : String) :=
    "namespace='" ++ namespaceName ++ "'\n[[statement]]\nid='count'\nkind='select'\nsql=''"
  loadMapper (content first) first
  loadMapper (content second) second

/-- Two files with a statement of the same name are listed in the order in which
they were loaded, but in either order the name finds the same. -/
theorem loadMapper_comm_counts : ∃ after after' : Configuration,
    (loadCounts "a" "b").run {} = (.ok (), after) ∧
      (loadCounts "b" "a").run {} = (.ok (), after') ∧
      after.statements.ids = ["a.count", "b.count"] ∧
      after'.statements.ids = ["b.count", "a.count"] ∧
      after.statements.get "count" = after'.statements.get "count" := by
  have hids : ((loadCounts "a" "b").run {}).1.toBool = true ∧
      ((loadCounts "a" "b").run {}).2.statements.ids = ["a.count", "b.count"] := by
    decide +kernel
  have hids' : ((loadCounts "b" "a").run {}).1.toBool = true ∧
      ((loadCounts "b" "a").run {}).2.statements.ids = ["b.count", "a.count"] := by
    decide +kernel
  rcases hrun : (loadCounts "a" "b").run {} with ⟨_ | _, after⟩ <;> rw [hrun] at hids
  · cases hids.1
  · rcases hrun' : (loadCounts "b" "a").run {} with ⟨_ | _, after'⟩ <;> rw [hrun'] at hids'
    · cases hids'.1
    · obtain ⟨hstatements, -, -⟩ := loadMapper_comm (by decide) hrun hrun'
      exact ⟨after, after', rfl, rfl, hids.2, hids'.2, hstatements "count"⟩

end Configuration

end SqlMapper
