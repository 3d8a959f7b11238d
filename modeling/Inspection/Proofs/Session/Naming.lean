import Inspection.Proofs.Arn
import Inspection.Proofs.Session.Effect

/-!
# Names of different forms

A name is made in one of six ways, and each puts a word of its own before the
last slash.  No word ends in another, so a name has one form only, even when the
text of its parent imitates the others.  Every table of a session holds names of
one form.
-/

namespace Inspection

namespace Arn

/-- The ways in which names are made. -/
inductive Form where
  | resourceGroup
  | target
  | template
  | run
  | finding
  | rulesPackage
deriving DecidableEq, Repr

namespace Form

/-- What stands before the last slash of a name. -/
def word : Form → String
  | resourceGroup => "resourcegroup"
  | target => "target"
  | template => "template"
  | run => "run"
  | finding => "finding"
  | rulesPackage => "rulespackage"

/-- The names of a form: any region, account and parent, and an id without a
slash or a package of the catalog. -/
inductive Makes : Form → String → Prop
  | resourceGroup (region account : String) {id : String} (hid : '/' ∉ id.toList) :
      Makes resourceGroup (Arn.resourceGroup region account id)
  | target (region account : String) {id : String} (hid : '/' ∉ id.toList) :
      Makes target (Arn.target region account id)
  | template (parent : String) {id : String} (hid : '/' ∉ id.toList) :
      Makes template (Arn.template parent id)
  | run (parent : String) {id : String} (hid : '/' ∉ id.toList) :
      Makes run (Arn.run parent id)
  | finding (parent : String) {id : String} (hid : '/' ∉ id.toList) :
      Makes finding (Arn.finding parent id)
  | rulesPackage (region account : String) {package : String}
      (hpackage : package ∈ Catalog.packages.map Prod.fst) :
      Makes rulesPackage (Arn.rulesPackage region account package)

theorem eq_of_word_suffix {form other : Form} (h : form.word.toList <:+ other.word.toList) :
    form = other := by
  revert h
  cases form <;> cases other <;> decide

theorem slash_notMem_rest {id : String} (h : '/' ∉ id.toList) : '/' ∉ '0' :: '-' :: id.toList := by
  simpa using h

theorem slash_notMem_package {package : String}
    (h : package ∈ Catalog.packages.map Prod.fst) : '/' ∉ package.toList := by
  revert package
  decide

theorem toList_service (region account resource : String) :
    ∃ opening : List Char, (service region account resource).toList = opening ++ resource.toList :=
  ⟨_, String.toList_append⟩

/-- A name of a form has the word of the form before its last slash. -/
theorem Makes.word_before_slash {form : Form} {arn : String} (h : form.Makes arn) :
    ∃ opening rest : List Char, '/' ∉ rest ∧
      arn.toList = opening ++ form.word.toList ++ '/' :: rest := by
  cases h with
  | @resourceGroup region account id hid =>
      obtain ⟨opening, hservice⟩ := toList_service region account ("resourcegroup/0-" ++ id)
      refine ⟨opening, _, slash_notMem_rest hid, hservice.trans ?_⟩
      simp [word]
  | @target region account id hid =>
      obtain ⟨opening, hservice⟩ := toList_service region account ("target/0-" ++ id)
      refine ⟨opening, _, slash_notMem_rest hid, hservice.trans ?_⟩
      simp [word]
  | template parent hid =>
      refine ⟨(parent ++ "/").toList, _, slash_notMem_rest hid, ?_⟩
      simp [Arn.template, word]
  | run parent hid =>
      refine ⟨(parent ++ "/").toList, _, slash_notMem_rest hid, ?_⟩
      simp [Arn.run, word]
  | finding parent hid =>
      refine ⟨(parent ++ "/").toList, _, slash_notMem_rest hid, ?_⟩
      simp [Arn.finding, word]
  | @rulesPackage region account package hpackage =>
      obtain ⟨opening, hservice⟩ := toList_service region account ("rulespackage/" ++ package)
      refine ⟨opening, _, slash_notMem_package hpackage, hservice.trans ?_⟩
      simp [word]

theorem Makes.unique {form other : Form} {arn : String} (h : form.Makes arn)
    (hother : other.Makes arn) : form = other := by
  obtain ⟨opening, rest, hrest, hlist⟩ := h.word_before_slash
  obtain ⟨opening', rest', hrest', hlist'⟩ := hother.word_before_slash
  obtain ⟨hbefore, -⟩ := eq_and_eq_of_append_slash hrest hrest' (hlist.symm.trans hlist')
  have hword : form.word.toList <:+ opening ++ form.word.toList := List.suffix_append _ _
  have hword' : other.word.toList <:+ opening ++ form.word.toList :=
    hbefore ▸ List.suffix_append _ _
  rcases List.suffix_or_suffix_of_suffix hword hword' with hends | hends
  · exact eq_of_word_suffix hends
  · exact (eq_of_word_suffix hends).symm

/-- The names of a form that a store knows. -/
def names (form : Form) (store : Store) : List String :=
  match form with
  | resourceGroup => store.groups.keys
  | target => store.targets.keys
  | template => store.templates.keys
  | run => store.runs.keys
  | finding => store.findings.keys
  | rulesPackage => Catalog.rulesPackageArns store.region

end Form

/-- A way of extending names by ids: parent and id can be read off the result. -/
def Unambiguous (extend : String → String → String) : Prop :=
  ∀ parent other id otherId, '/' ∉ id.toList → '/' ∉ otherId.toList →
    extend parent id = extend other otherId → parent = other ∧ id = otherId

theorem unambiguous_of_segment {extend : String → String → String} (segment : List Char)
    (h : ∀ parent id, (extend parent id).toList =
      (parent.toList ++ segment) ++ '/' :: '0' :: '-' :: id.toList) : Unambiguous extend := by
  intro parent other id otherId hid hother heq
  have hlist := congrArg String.toList heq
  rw [h, h] at hlist
  obtain ⟨hparents, hids⟩ :=
    eq_and_eq_of_append_slash (by simpa using hid) (by simpa using hother) hlist
  simp only [List.cons.injEq, true_and] at hids
  exact ⟨String.toList_inj.mp (List.append_cancel_right hparents), String.toList_inj.mp hids⟩

end Arn

namespace Table

variable {E : Type} {form : Arn.Form} {table : Table E}

/-- All names in a table are of a form. -/
def AllMadeBy (form : Arn.Form) (table : Table E) : Prop :=
  ∀ arn ∈ table.keys, form.Makes arn

theorem AllMadeBy.empty : (Table.empty : Table E).AllMadeBy form := by
  intro arn harn
  exact absurd harn List.not_mem_nil

/-- Whether the name is new does not matter: an entity that is replaced leaves
the names as they are. -/
theorem AllMadeBy.insert (h : table.AllMadeBy form) {key : String} (hkey : form.Makes key)
    (value : E) : (table.insert key value).AllMadeBy form := by
  intro arn harn
  by_cases hold : key ∈ table.keys
  · rw [Table.insert, dif_pos hold, keys_update] at harn
    exact h arn harn
  · rw [keys_insert_of_notMem value hold, List.mem_append, List.mem_singleton] at harn
    rcases harn with harn | rfl
    · exact h arn harn
    · exact hkey

theorem AllMadeBy.update (h : table.AllMadeBy form) (key : String) (change : E → E) :
    (table.update key change).AllMadeBy form := by
  rw [AllMadeBy, keys_update]
  exact h

end Table

theorem Catalog.makes_rulesPackage {region arn : String} (h : arn ∈ rulesPackageArns region) :
    Arn.Form.rulesPackage.Makes arn := by
  obtain ⟨package, hpackage, rfl⟩ := List.mem_map.mp h
  obtain ⟨⟨id, name⟩, hmem, rfl⟩ := List.mem_map.mp hpackage
  exact .rulesPackage region publisher (List.mem_map_of_mem hmem)

namespace Store

/-- Every table has names of its own form. -/
structure NamedByForm (store : Store) : Prop where
  groups : store.groups.AllMadeBy .resourceGroup
  targets : store.targets.AllMadeBy .target
  templates : store.templates.AllMadeBy .template
  runs : store.runs.AllMadeBy .run
  findings : store.findings.AllMadeBy .finding

theorem NamedByForm.empty (region account : String) : (Store.empty region account).NamedByForm :=
  ⟨.empty, .empty, .empty, .empty, .empty⟩

theorem NamedByForm.makes {store : Store} (h : store.NamedByForm) {form : Arn.Form} {arn : String}
    (harn : arn ∈ form.names store) : form.Makes arn := by
  cases form with
  | resourceGroup => exact h.groups arn harn
  | target => exact h.targets arn harn
  | template => exact h.templates arn harn
  | run => exact h.runs arn harn
  | finding => exact h.findings arn harn
  | rulesPackage => exact Catalog.makes_rulesPackage harn

end Store

namespace Session

variable {ids : Nat → String} {session next : Session}

theorem namedByForm_of_effect (h : session.store.NamedByForm) (hids : ∀ n, '/' ∉ (ids n).toList)
    {now : Instant} {command : Command} {answer : Except ServiceError Json}
    (heffect : Effect ⟨ids, now⟩ session command answer next) : next.store.NamedByForm := by
  cases heffect with
  | groupRefused | subscriptionRefused | runRefused => exact h
  | groupAdded _ hgroup =>
      subst hgroup
      exact { h with groups := h.groups.insert (.resourceGroup _ _ (hids _)) _ }
  | targetAdded htarget =>
      subst htarget
      exact { h with targets := h.targets.insert (.target _ _ (hids _)) _ }
  | templateAdded htemplate =>
      -- the parent is what the client gave, and may look like any name
      subst htemplate
      exact { h with templates := h.templates.insert (.template _ (hids _)) _ }
  | subscribed => exact { h with templates := h.templates.update _ _ }
  | runAdded _ hrun hfinding =>
      subst hrun hfinding
      exact { h with
        runs := h.runs.insert (.run _ (hids _)) _
        findings := h.findings.insert (.finding _ (hids _)) _ }

theorem namedByForm_run (hids : ∀ n, '/' ∉ (ids n).toList) (region account : String)
    (steps : List Step) : ((start region account).run ids steps).store.NamedByForm := by
  apply run_preserves (P := fun session => session.store.NamedByForm)
  · intro now session command answer next h heffect
    exact namedByForm_of_effect h hids heffect
  · intro session _
    exact .empty _ _
  · exact .empty region account

/-- Parent and id can be read off a name that extends another, and names that are
made in different ways differ, whatever text the parents are.  Hence a name
stands in one place only, whatever was done to a new store and even if ids were
drawn twice. -/
theorem names_are_unambiguous :
    (Arn.Unambiguous Arn.template ∧ Arn.Unambiguous Arn.run ∧ Arn.Unambiguous Arn.finding) ∧
    (∀ (form other : Arn.Form) (arn : String), form.Makes arn → other.Makes arn → form = other) ∧
    ∀ ids : Nat → String, (∀ n, '/' ∉ (ids n).toList) →
      ∀ (region account : String) (steps : List Step) (form other : Arn.Form) (arn : String),
        arn ∈ form.names ((start region account).run ids steps).store →
          arn ∈ other.names ((start region account).run ids steps).store → form = other := by
  refine ⟨⟨?_, ?_, ?_⟩, fun form other arn h hother => h.unique hother, ?_⟩
  · exact Arn.unambiguous_of_segment "/template".toList fun _ _ => by simp [Arn.template]
  · exact Arn.unambiguous_of_segment "/run".toList fun _ _ => by simp [Arn.run]
  · exact Arn.unambiguous_of_segment "/finding".toList fun _ _ => by simp [Arn.finding]
  · intro ids hids region account steps form other arn harn hother
    have hnamed := namedByForm_run hids region account steps
    exact (hnamed.makes harn).unique (hnamed.makes hother)

/-- A template whose target is named like a finding, and a run of it: their
names are none of the findings, and the id is read off after the parent. -/
theorem names_are_unambiguous_of_imitated_finding :
    let now := Instant.ofSeconds 1700000000
    let imitation := Arn.finding (Arn.run (Arn.template "target" "a") "b") "c"
    let template := Arn.template imitation (IdSupply.counted 0)
    let run := Arn.run template (IdSupply.counted 1)
    let steps := [.command now (.createAssessmentTemplate imitation "web" 900 [] []),
      .command now (.startAssessmentRun template none)]
    let store := ((start "eu-west-1" "123456789012").run IdSupply.counted steps).store
    (∀ n, '/' ∉ (IdSupply.counted n).toList) ∧
      (template ∈ Arn.Form.template.names store ∧ template ∉ Arn.Form.finding.names store) ∧
      (run ∈ Arn.Form.run.names store ∧ run ∉ Arn.Form.template.names store) ∧
      (∀ parent id, '/' ∉ id.toList → Arn.template parent id = template →
        parent = imitation ∧ id = IdSupply.counted 0) ∧
      ∀ package ∈ Catalog.packages.map Prod.fst,
        Arn.rulesPackage "eu-west-1" "123456789012" package ≠ template := by
  intro now imitation template run steps store
  have hids : ∀ n, '/' ∉ (IdSupply.counted n).toList := IdSupply.counted_isSupply.slash_notMem
  obtain ⟨⟨htemplate, -, -⟩, hforms, hplaces⟩ := names_are_unambiguous
  have hplace := hplaces IdSupply.counted hids "eu-west-1" "123456789012" steps
  have hstored : template ∈ Arn.Form.template.names store := by
    decide +kernel
  have hstarted : run ∈ Arn.Form.run.names store := by
    decide +kernel
  refine ⟨hids, ⟨hstored, fun hfinding => ?_⟩, ⟨hstarted, fun hrun => ?_⟩, ?_, ?_⟩
  · exact absurd (hplace .template .finding template hstored hfinding) (by decide)
  · exact absurd (hplace .run .template run hstarted hrun) (by decide)
  · exact fun parent id hid heq => htemplate parent imitation id _ hid (hids 0) heq
  · intro package hpackage heq
    have hmade : Arn.Form.rulesPackage.Makes template :=
      heq ▸ .rulesPackage "eu-west-1" "123456789012" hpackage
    exact absurd (hforms .rulesPackage .template template hmade (.template imitation (hids 0)))
      (by decide)

end Session

end Inspection
