import SqlMapper.Proofs.Template.Filling
import SqlMapper.Proofs.Text.Squeeze
import SqlMapper.Template.Compile

/-!
# What compiling a template gives

Compiling asks for the mapping of every content, one after the other, and
numbers the placeholders by the mappings made so far. The compiled form is
therefore fixed by the pieces of the scan: the literals with the
placeholders `1`, …, `n` between them, and beside them the mappings of the
contents in the same order.

## Main results

* `TypeSystem.compile_iff_mappings` — when compiling succeeds, what it gives,
  and which fault it ends with.
-/

namespace SqlMapper

/-! ## The pieces of compiled SQL -/

/-- The placeholders of `count` parameters: as many question marks, or dollar
signs with the numbers from one. -/
def Settings.placeholders (settings : Settings) (count : Nat) : List String :=
  match settings.placeholder with
  | .question => List.replicate count "?"
  | .dollar => (List.range' 1 count).map fun number => "$" ++ toString number

theorem Settings.placeholders_eq (settings : Settings) (count : Nat) :
    settings.placeholders count = (List.range' 1 count).map settings.placeholder.render := by
  unfold placeholders
  cases settings.placeholder with
  | question =>
      show _ = (List.range' 1 count).map fun _ => "?"
      rw [List.map_const', List.length_range']
  | dollar => rfl

/-- SQL as it is kept: with whitespace shrinking, every run of blanks is one
space and the ends are trimmed. -/
def Settings.layout (settings : Settings) (sql : String) : String :=
  if settings.shrinkWhitespace then Text.trim (Text.collapse sql) else sql

namespace TypeSystem

variable (types : TypeSystem) (settings : Settings) (template : String)
  (parameterType : Option ValueType)

/-- The contents that compiling asks the mapping of, in order. -/
def lookedAt : List String :=
  let handler := TokenHandler.watched (types.placeholderOf settings (parameterType.getD .any))
  ((settings.markers.replace template handler).run ([], [])).2.1

/-! ## One reference -/

variable {types settings}
variable {type : ValueType} {content : String} {made : List ParameterMapping}

theorem run_placeholderOf_of_ok {mapping : ParameterMapping}
    (h : types.mappingOf content type = .ok mapping) :
    (types.placeholderOf settings type content).run made =
      (.ok (settings.placeholder.render (made.length + 1)), made ++ [mapping]) := by
  rw [placeholderOf, h]
  change (Except.ok (settings.placeholder.render (made ++ [mapping]).length), made ++ [mapping]) = _
  rw [List.length_append, List.length_singleton]

theorem run_placeholderOf_of_error {fault : Fault}
    (h : types.mappingOf content type = .error fault) :
    (types.placeholderOf settings type content).run made = (.error fault, made) := by
  rw [placeholderOf, h]
  rfl

/-! ## All references -/

/-- If every content has a mapping, the placeholders go on counting from the
mappings made before and the mappings are added behind those. -/
theorem run_mapM_placeholderOf {contents : List String} {mappings : List ParameterMapping}
    (h : contents.map (types.mappingOf · type) = mappings.map .ok) :
    (contents.mapM (types.placeholderOf settings type)).run made =
      (.ok ((List.range' (made.length + 1) contents.length).map settings.placeholder.render),
        made ++ mappings) := by
  induction contents generalizing made mappings with
  | nil =>
      obtain rfl : mappings = [] := by simpa using h.symm
      simp
  | cons content contents ih =>
      cases mappings with
      | nil => simp at h
      | cons mapping mappings =>
          obtain ⟨hhead, htail⟩ : types.mappingOf content type = .ok mapping ∧
              contents.map (types.mappingOf · type) = mappings.map .ok := by simpa using h
          rw [run_mapM_cons_of_ok (run_placeholderOf_of_ok hhead), ih htail]
          simp [Except.map, List.range'_succ]

/-- Contents that have mappings have them as a list. -/
theorem exists_mappings {contents : List String}
    (h : ∀ content ∈ contents, ∃ mapping, types.mappingOf content type = .ok mapping) :
    ∃ mappings : List ParameterMapping,
      contents.map (types.mappingOf · type) = mappings.map .ok := by
  induction contents with
  | nil => exact ⟨[], rfl⟩
  | cons content contents ih =>
      obtain ⟨mapping, hmapping⟩ := h content (by simp)
      obtain ⟨mappings, hmappings⟩ := ih fun c hc => h c (by simp [hc])
      exact ⟨mapping :: mappings, by simp [hmapping, hmappings]⟩

/-- Of contents that do not all have a mapping, there is a first without
one. -/
theorem exists_first_fault {contents : List String}
    (h : ¬ ∀ content ∈ contents, ∃ mapping, types.mappingOf content type = .ok mapping) :
    ∃ before content after fault, contents = before ++ content :: after ∧
      (∀ earlier ∈ before, ∃ mapping, types.mappingOf earlier type = .ok mapping) ∧
      types.mappingOf content type = .error fault := by
  induction contents with
  | nil => simp at h
  | cons content contents ih =>
      cases hc : types.mappingOf content type with
      | error fault => exact ⟨[], content, contents, fault, rfl, by simp, hc⟩
      | ok mapping =>
          have hrest : ¬ ∀ c ∈ contents, ∃ mapping, types.mappingOf c type = .ok mapping := by
            intro hall
            apply h
            intro c hmem
            rcases List.mem_cons.mp hmem with rfl | hmem
            · exact ⟨mapping, hc⟩
            · exact hall c hmem
          obtain ⟨before, first, after, fault, rfl, hbefore, hfirst⟩ := ih hrest
          refine ⟨content :: before, first, after, fault, rfl, ?_, hfirst⟩
          intro c hmem
          rcases List.mem_cons.mp hmem with rfl | hmem
          · exact ⟨mapping, hc⟩
          · exact hbefore c hmem

/-! ## The whole template -/

variable (types settings)

/-- Compiling is a run of the handler that makes placeholders. -/
theorem compile_eq :
    types.compile settings template parameterType =
      let run := (settings.markers.replace template
        (types.placeholderOf settings (parameterType.getD .any))).run []
      run.1.map fun sql => { sql := settings.layout sql, mappings := run.2 } := by
  simp only [compile, Settings.layout, ← Text.squeeze_eq_trim_collapse]
  rcases (settings.markers.replace template
    (types.placeholderOf settings (parameterType.getD .any))).run [] with ⟨_ | _, _⟩ <;> rfl

variable {types settings template parameterType}

/-- If every content has a mapping, the compiled form is fixed. -/
theorem compile_of_mappings (hscan : (settings.markers.scan template).intact = true)
    {mappings : List ParameterMapping}
    (h : (settings.markers.scan template).references.map
      (types.mappingOf · (parameterType.getD .any)) = mappings.map .ok) :
    types.compile settings template parameterType =
      let scanned := settings.markers.scan template
      .ok {
        sql := settings.layout
          (scanned.woven (settings.placeholders scanned.references.length))
        mappings } := by
  rw [compile_eq, Markers.replace_of_intact hscan,
    run_bind_of_ok (run_mapM_placeholderOf h)]
  simp only [settings.placeholders_eq]
  rfl

/-- A template without tokens compiles to its own text. -/
theorem compile_of_literal
    (h : settings.markers.scan template = Template.literal template.toList) :
    types.compile settings template parameterType =
      .ok { sql := settings.layout template, mappings := [] } := by
  have hscan : (settings.markers.scan template).intact = true := by
    rw [h]
    rfl
  have hmappings : (settings.markers.scan template).references.map
      (types.mappingOf · (parameterType.getD .any)) = ([] : List ParameterMapping).map .ok := by
    rw [h]
    rfl
  have hnone : settings.placeholders 0 = [] := settings.placeholders_eq 0
  rw [compile_of_mappings hscan hmappings, h]
  show Except.ok (CompiledSql.mk
    (settings.layout ((Template.literal template.toList).woven (settings.placeholders 0))) []) = _
  rw [hnone, Template.woven_literal, String.ofList_toList]

/-- Compiling looks at every content if all have a mapping. -/
theorem lookedAt_of_mappings (hscan : (settings.markers.scan template).intact = true)
    {mappings : List ParameterMapping}
    (h : (settings.markers.scan template).references.map
      (types.mappingOf · (parameterType.getD .any)) = mappings.map .ok) :
    types.lookedAt settings template parameterType =
      (settings.markers.scan template).references := by
  rw [lookedAt, Markers.replace_of_intact hscan,
    run_bind_of_ok (run_mapM_watched (run_mapM_placeholderOf h))]
  simp

/-- The first content without a mapping ends the work with its fault. -/
theorem compile_of_fault (hscan : (settings.markers.scan template).intact = true)
    {before after : List String} {fault : Fault}
    (hsplit : (settings.markers.scan template).references = before ++ content :: after)
    (hbefore : ∀ earlier ∈ before,
      ∃ mapping, types.mappingOf earlier (parameterType.getD .any) = .ok mapping)
    (hfault : types.mappingOf content (parameterType.getD .any) = .error fault) :
    types.compile settings template parameterType = .error fault ∧
      types.lookedAt settings template parameterType = before ++ [content] := by
  obtain ⟨mappings, hmappings⟩ := exists_mappings hbefore
  have hrun : (before.mapM (types.placeholderOf settings (parameterType.getD .any))).run [] = _ :=
    run_mapM_placeholderOf hmappings
  constructor
  · rw [compile_eq, Markers.replace_of_intact hscan, hsplit,
      run_bind_of_error (run_mapM_append_of_error hrun (run_placeholderOf_of_error hfault))]
    rfl
  · rw [lookedAt, Markers.replace_of_intact hscan, hsplit,
      run_bind_of_error (run_mapM_watched_of_error hrun (run_placeholderOf_of_error hfault))]
    simp

/-- A template that compiles has a scan that reaches the end. -/
theorem intact_of_compile {compiled : CompiledSql}
    (h : types.compile settings template parameterType = .ok compiled) :
    (settings.markers.scan template).intact = true := by
  rw [compile_eq] at h
  dsimp only at h
  rcases hrun : (settings.markers.replace template
    (types.placeholderOf settings (parameterType.getD .any))).run [] with ⟨_ | text, made⟩
  · rw [hrun] at h
    cases h
  · exact Markers.intact_of_replace hrun

/-- If a template compiles, every content has a mapping, and the mappings are
those of the compiled form. -/
theorem mappings_of_compile {compiled : CompiledSql}
    (h : types.compile settings template parameterType = .ok compiled) :
    (settings.markers.scan template).references.map
        (types.mappingOf · (parameterType.getD .any)) = compiled.mappings.map .ok := by
  have hscan := intact_of_compile h
  have hall : ∀ content ∈ (settings.markers.scan template).references,
      ∃ mapping, types.mappingOf content (parameterType.getD .any) = .ok mapping := by
    apply Classical.byContradiction
    intro hnot
    obtain ⟨before, content, after, fault, hsplit, hbefore, hfault⟩ := exists_first_fault hnot
    rw [(compile_of_fault hscan hsplit hbefore hfault).1] at h
    cases h
  obtain ⟨mappings, hmappings⟩ := exists_mappings hall
  obtain rfl := Except.ok.inj ((compile_of_mappings hscan hmappings).symm.trans h)
  exact hmappings

/-- Compiling succeeds exactly if every content has a mapping. It then gives
the literals with the numbered placeholders between them and the mappings in
the order of the contents. Otherwise it gives the fault of the first content
without a mapping and looks at no content behind it. -/
theorem compile_iff_mappings (hscan : (settings.markers.scan template).intact = true) :
    let scanned := settings.markers.scan template
    let mappingOf := fun content => types.mappingOf content (parameterType.getD .any)
    ((∃ compiled, types.compile settings template parameterType = .ok compiled) ↔
        ∀ content ∈ scanned.references, ∃ mapping, mappingOf content = .ok mapping) ∧
      (∀ compiled, types.compile settings template parameterType = .ok compiled →
        compiled.sql = settings.layout
            (scanned.woven (settings.placeholders scanned.references.length)) ∧
          scanned.references.map mappingOf = compiled.mappings.map .ok ∧
          types.lookedAt settings template parameterType = scanned.references) ∧
      (∀ before content after fault,
        scanned.references = before ++ content :: after →
        (∀ earlier ∈ before, ∃ mapping, mappingOf earlier = .ok mapping) →
        mappingOf content = .error fault →
        types.compile settings template parameterType = .error fault ∧
          types.lookedAt settings template parameterType = before ++ [content]) := by
  intro scanned mappingOf
  refine ⟨⟨fun ⟨compiled, hok⟩ content hmem => ?_, fun h => ?_⟩, fun compiled hok => ?_, ?_⟩
  · have hmem := List.mem_map_of_mem (f := mappingOf) hmem
    rw [mappings_of_compile hok] at hmem
    obtain ⟨mapping, -, hmapping⟩ := List.mem_map.mp hmem
    exact ⟨mapping, hmapping.symm⟩
  · obtain ⟨mappings, hmappings⟩ := exists_mappings h
    exact ⟨_, compile_of_mappings hscan hmappings⟩
  · have hmappings := mappings_of_compile hok
    have hcompiled := Except.ok.inj ((compile_of_mappings hscan hmappings).symm.trans hok)
    exact ⟨congrArg CompiledSql.sql hcompiled.symm, hmappings, lookedAt_of_mappings hscan hmappings⟩
  · intro before content after fault hsplit hbefore hfault
    exact compile_of_fault hscan hsplit hbefore hfault

/-- Two references with an escaped marker between them become `$1` and `$2`, or
two question marks. -/
theorem compile_two_references :
    let template := "a = #\x7bid\x7d  and b = '\\#\x7bc\x7d' or d = #\x7be:INTEGER\x7d"
    let gives (placeholder : Placeholder) (sql : String) := ∃ compiled,
      ({} : TypeSystem).compile { placeholder, shrinkWhitespace := true } template none =
        .ok compiled ∧ compiled.sql = sql ∧ compiled.mappings.length = 2
    gives .dollar "a = $1 and b = '#\x7bc\x7d' or d = $2" ∧
      gives .question "a = ? and b = '#\x7bc\x7d' or d = ?" := by
  intro template gives
  -- the form of the placeholders does not matter for the scan
  have hscan : (({} : Settings).markers.scan template).intact = true := by decide +kernel
  have hreferences : (({} : Settings).markers.scan template).references = ["id", "e:INTEGER"] := by
    decide +kernel
  have hall : ∀ content ∈ (({} : Settings).markers.scan template).references,
      ∃ mapping, ({} : TypeSystem).mappingOf content .any = .ok mapping := by
    have hmade : ∀ content ∈ ["id", "e:INTEGER"],
        (({} : TypeSystem).mappingOf content .any).toBool = true := by decide +kernel
    rw [hreferences]
    exact fun content hmem => exists_ok_of_toBool (hmade content hmem)
  have hgives {sql : String} (placeholder : Placeholder)
      (hlayout :
        let settings : Settings := { placeholder, shrinkWhitespace := true }
        settings.layout ((settings.markers.scan template).woven (settings.placeholders 2)) = sql) :
      gives placeholder sql := by
    let settings : Settings := { placeholder, shrinkWhitespace := true }
    obtain ⟨hiff, hok, -⟩ := @compile_iff_mappings {} settings template none hscan
    obtain ⟨compiled, hcompiled⟩ := hiff.mpr hall
    obtain ⟨hsql, hmappings, -⟩ := hok compiled hcompiled
    have hreferences : (settings.markers.scan template).references = _ := hreferences
    rw [hreferences] at hsql hmappings
    exact ⟨compiled, hcompiled, hsql.trans hlayout,
      by simpa using (congrArg List.length hmappings).symm⟩
  exact ⟨hgives .dollar (by decide +kernel), hgives .question (by decide +kernel)⟩

end TypeSystem

end SqlMapper
