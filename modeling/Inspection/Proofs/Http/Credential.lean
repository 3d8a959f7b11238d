import Inspection.Http
import Inspection.Proofs.Text
import Mathlib.Data.List.TakeWhile

/-!
# Regions of credentials

The region is read from an authorization by three cuts in turn: at the marks, at
the first comma or space, and at the slashes.  Here the same is said at once, by
what an authorization is put together of.
-/

namespace Inspection

namespace Http

namespace Request

def EndsPart (c : Char) : Prop :=
  c = '/' ∨ c = ',' ∨ c = ' '

/-- A part of a credential scope: a text without slashes, commas, spaces and
marks. -/
structure IsPart (part : List Char) : Prop where
  plain : ∀ c ∈ part, ¬ EndsPart c
  unmarked : ¬ credentialMark <:+: part

/-- Key, date and region with the slashes between them. -/
def scope (key date region : List Char) : List Char :=
  key ++ '/' :: (date ++ '/' :: region)

/-- What may come after a region: nothing, or anything that begins with a slash,
a comma, a space or the mark. -/
def EndsRegion (tail : List Char) : Prop :=
  tail = [] ∨ (∃ c rest, tail = c :: rest ∧ EndsPart c) ∨ credentialMark <+: tail

/-- An authorization has a region when a scope with it stands behind the first
mark. -/
inductive HasRegion : List Char → List Char → Prop
  | intro {opening key date region tail : List Char}
      (hopening : ¬ credentialMark <:+: opening) (hkey : IsPart key) (hdate : IsPart date)
      (hregion : IsPart region) (hne : region ≠ []) (htail : EndsRegion tail) :
      HasRegion (opening ++ credentialMark ++ (scope key date region ++ tail)) region

/-- The first character of the mark does not come again. -/
theorem credentialMark_eq : ∃ rest, credentialMark = 'C' :: rest ∧ 'C' ∉ rest :=
  ⟨"redential=".toList, rfl, by decide⟩

theorem credentialMark_ne_nil : credentialMark ≠ [] := by
  decide

theorem EndsPart.notMem_credentialMark {c : Char} (h : EndsPart c) : c ∉ credentialMark := by
  rcases h with rfl | rfl | rfl <;> decide

/-- Neither a comma nor a space: a scope goes on. -/
def inScope (c : Char) : Bool :=
  !(c == ',' || c == ' ')

theorem not_endsPart_iff {c : Char} : ¬ EndsPart c ↔ c ≠ '/' ∧ inScope c = true := by
  simp [EndsPart, inScope]

theorem IsPart.of_inScope {part : List Char} (hslash : '/' ∉ part)
    (hin : ∀ c ∈ part, inScope c = true) (hunmarked : ¬ credentialMark <:+: part) :
    IsPart part where
  plain := by
    intro c hc
    refine not_endsPart_iff.mpr ⟨?_, hin c hc⟩
    rintro rfl
    exact hslash hc
  unmarked := hunmarked

theorem IsPart.slash_notMem {part : List Char} (h : IsPart part) : '/' ∉ part :=
  fun hmem => (not_endsPart_iff.mp (h.plain _ hmem)).1 rfl

theorem IsPart.forall_inScope {part : List Char} (h : IsPart part) :
    ∀ c ∈ part, inScope c = true :=
  fun c hc => (not_endsPart_iff.mp (h.plain c hc)).2

/-- The three cuts, one after the other. -/
theorem credentialRegion?_eq_some_iff_cuts {authorization region : String} :
    credentialRegion? authorization = some region ↔ ∃ behind key date others,
      Text.afterFirst? credentialMark authorization.toList = some behind ∧
        Text.pieces '/' ((Text.beforeFirst credentialMark behind).takeWhile inScope) =
          key :: date :: region.toList :: others ∧
        region.toList ≠ [] := by
  simp only [credentialRegion?, Option.bind_eq_bind, Option.bind_eq_some_iff]
  constructor
  · rintro ⟨behind, hbehind, hmatch⟩
    split at hmatch
    case h_1 key date c rest others hpieces =>
      obtain rfl := Option.some.inj hmatch
      exact ⟨behind, key, date, others, hbehind, by rwa [String.toList_ofList], by simp⟩
    case h_2 => cases hmatch
  · rintro ⟨behind, key, date, others, hbehind, hpieces, hne⟩
    obtain ⟨c, rest, hregion⟩ := List.exists_cons_of_ne_nil hne
    refine ⟨behind, hbehind, ?_⟩
    unfold inScope at hpieces
    rw [hpieces, hregion]
    exact congrArg some ((congrArg String.ofList hregion.symm).trans String.ofList_toList)

variable {mark text key date region : List Char}

/-- A text without slashes does not stretch over two parts. -/
theorem infix_scope_iff (hslash : '/' ∉ mark) :
    mark <:+: scope key date region ↔ mark <:+: key ∨ mark <:+: date ∨ mark <:+: region := by
  rw [scope, Text.infix_append_cons_iff hslash, Text.infix_append_cons_iff hslash]

theorem forall_inScope_scope_iff : (∀ c ∈ scope key date region, inScope c = true) ↔
    (∀ c ∈ key, inScope c = true) ∧ (∀ c ∈ date, inScope c = true) ∧
      ∀ c ∈ region, inScope c = true := by
  have hslash : inScope '/' = true := by decide
  simp only [scope, List.forall_mem_append, List.forall_mem_cons, hslash, true_and]

/-- The first three pieces of a text are the parts of the scope with which it
begins, and after which it ends or goes on with a slash. -/
theorem exists_pieces_iff :
    (∃ others, Text.pieces '/' text = key :: date :: region :: others) ↔
      ('/' ∉ key ∧ '/' ∉ date ∧ '/' ∉ region) ∧
        ∃ more, text = scope key date region ++ more ∧
          (more = [] ∨ ∃ further, more = '/' :: further) := by
  constructor
  · rintro ⟨others, h⟩
    obtain ⟨hkey, ⟨-, hnil⟩ | ⟨fromDate, rfl, hdates⟩⟩ := Text.pieces_eq_cons_iff.mp h
    · cases hnil
    obtain ⟨hdate, ⟨-, hnil⟩ | ⟨fromRegion, rfl, hregions⟩⟩ := Text.pieces_eq_cons_iff.mp hdates
    · cases hnil
    obtain ⟨hregion, ⟨rfl, -⟩ | ⟨further, rfl, -⟩⟩ := Text.pieces_eq_cons_iff.mp hregions
    · exact ⟨⟨hkey, hdate, hregion⟩, [], by simp [scope], .inl rfl⟩
    · exact ⟨⟨hkey, hdate, hregion⟩, '/' :: further, by simp [scope], .inr ⟨further, rfl⟩⟩
  · rintro ⟨⟨hkey, hdate, hregion⟩, more, rfl, hmore⟩
    have hsplit : scope key date region ++ more =
        key ++ '/' :: (date ++ '/' :: (region ++ more)) := by
      simp [scope]
    rw [hsplit, Text.pieces_append_cons hkey, Text.pieces_append_cons hdate]
    rcases hmore with rfl | ⟨further, rfl⟩
    · exact ⟨[], by rw [List.append_nil, Text.pieces_of_notMem hregion]⟩
    · exact ⟨Text.pieces '/' further, by rw [Text.pieces_append_cons hregion]⟩

/-- What is cut off behind a scope begins with a comma or a space. -/
theorem exists_takeWhile_inScope (credential : List Char) :
    ∃ rest, credential = credential.takeWhile inScope ++ rest ∧
      (rest = [] ∨ ∃ c more, rest = c :: more ∧ EndsPart c) := by
  refine ⟨credential.dropWhile inScope, List.takeWhile_append_dropWhile.symm, ?_⟩
  have hhead := List.head?_dropWhile_not inScope credential
  cases hdrop : credential.dropWhile inScope with
  | nil => exact .inl rfl
  | cons c more =>
      rw [hdrop] at hhead
      refine .inr ⟨c, more, rfl, ?_⟩
      by_contra hplain
      exact absurd ((not_endsPart_iff.mp hplain).2.symm.trans hhead) (by decide)

/-- Up to the next mark, what comes after a region is nothing or begins with a
delimiter. -/
theorem EndsRegion.exists_beforeFirst {front tail : List Char} (h : EndsRegion tail)
    (hfront : ¬ credentialMark <:+: front) :
    ∃ after, Text.beforeFirst credentialMark (front ++ tail) = front ++ after ∧
      (after = [] ∨ ∃ c more, after = c :: more ∧ EndsPart c) := by
  obtain ⟨m, hmark, hm⟩ := credentialMark_eq
  have hstop : ∀ {before rest}, ¬ credentialMark <:+: before →
      Text.EndsOrResumes credentialMark rest →
        Text.beforeFirst credentialMark (before ++ rest) = before := by
    rw [hmark]
    exact Text.beforeFirst_append hm
  rcases h with rfl | ⟨c, more, rfl, hc⟩ | hresumes
  · exact ⟨[], by rw [hstop hfront (.inl rfl), List.append_nil], .inl rfl⟩
  · obtain ⟨rest, hsplit, hrest, hunmarked⟩ := Text.exists_beforeFirst credentialMark_ne_nil more
    refine ⟨c :: Text.beforeFirst credentialMark more, ?_, .inr ⟨c, _, rfl, hc⟩⟩
    have hwhole : ¬ credentialMark <:+: front ++ c :: Text.beforeFirst credentialMark more := by
      rw [Text.infix_append_cons_iff hc.notMem_credentialMark]
      exact not_or.mpr ⟨hfront, hunmarked⟩
    have hmore : front ++ c :: more =
        front ++ c :: Text.beforeFirst credentialMark more ++ rest := by
      rw [List.append_assoc, List.cons_append, ← hsplit]
    rw [hmore]
    exact hstop hwhole hrest
  · exact ⟨[], by rw [hstop hfront (.inr hresumes), List.append_nil], .inl rfl⟩

theorem EndsRegion.of_parts {more dropped rest : List Char}
    (hmore : more = [] ∨ ∃ further, more = '/' :: further)
    (hdropped : dropped = [] ∨ ∃ c further, dropped = c :: further ∧ EndsPart c)
    (hrest : Text.EndsOrResumes credentialMark rest) : EndsRegion (more ++ dropped ++ rest) := by
  rcases hmore with rfl | ⟨further, rfl⟩
  · rcases hdropped with rfl | ⟨c, further, rfl, hc⟩
    · exact hrest.imp_right .inr
    · exact .inr (.inl ⟨c, further ++ rest, rfl, hc⟩)
  · refine .inr (.inl ⟨'/', further ++ dropped ++ rest, ?_, .inl rfl⟩)
    simp

theorem scope_unmarked (hkey : IsPart key) (hdate : IsPart date) (hregion : IsPart region) :
    ¬ credentialMark <:+: scope key date region := by
  rw [infix_scope_iff (EndsPart.notMem_credentialMark (.inl rfl)), not_or, not_or]
  exact ⟨hkey.unmarked, hdate.unmarked, hregion.unmarked⟩

/-- A scope is all in scope, and what is cut off or kept behind it does not
belong to its region. -/
theorem exists_pieces_of_scope {after : List Char} (hkey : IsPart key) (hdate : IsPart date)
    (hregion : IsPart region) (hafter : after = [] ∨ ∃ c more, after = c :: more ∧ EndsPart c) :
    ∃ others, Text.pieces '/' ((scope key date region ++ after).takeWhile inScope) =
      key :: date :: region :: others := by
  have hin : ∀ c ∈ scope key date region, inScope c = true :=
    forall_inScope_scope_iff.mpr
      ⟨hkey.forall_inScope, hdate.forall_inScope, hregion.forall_inScope⟩
  rw [List.takeWhile_append_of_pos hin, exists_pieces_iff]
  refine ⟨⟨hkey.slash_notMem, hdate.slash_notMem, hregion.slash_notMem⟩, _, rfl, ?_⟩
  rcases hafter with rfl | ⟨c, more, rfl, rfl | rfl | rfl⟩
  · exact .inl rfl
  · exact .inr ⟨more.takeWhile inScope, rfl⟩
  · exact .inl rfl
  · exact .inl rfl

theorem credentialRegion?_of_hasRegion {authorization region : String}
    (h : HasRegion authorization.toList region.toList) :
    credentialRegion? authorization = some region := by
  rw [credentialRegion?_eq_some_iff_cuts]
  generalize authorization.toList = whole at h ⊢
  generalize region.toList = region at h ⊢
  obtain @⟨opening, key, date, region, tail, hopening, hkey, hdate, hregion, hne, htail⟩ := h
  obtain ⟨m, hmark, hm⟩ := credentialMark_eq
  have hbehind : Text.afterFirst? credentialMark
      (opening ++ credentialMark ++ (scope key date region ++ tail)) =
        some (scope key date region ++ tail) := by
    rw [hmark] at hopening ⊢
    exact Text.afterFirst?_append hm hopening
  obtain ⟨after, hcredential, hafter⟩ :=
    htail.exists_beforeFirst (scope_unmarked hkey hdate hregion)
  obtain ⟨others, hpieces⟩ := exists_pieces_of_scope hkey hdate hregion hafter
  exact ⟨_, key, date, others, hbehind, hcredential ▸ hpieces, hne⟩

theorem hasRegion_of_credentialRegion?_eq {authorization region : String}
    (h : credentialRegion? authorization = some region) :
    HasRegion authorization.toList region.toList := by
  obtain ⟨behind, key, date, others, hbehind, hpieces, hne⟩ :=
    credentialRegion?_eq_some_iff_cuts.mp h
  obtain ⟨opening, hauthorization, hopening⟩ :=
    Text.exists_of_afterFirst?_eq_some credentialMark_ne_nil hbehind
  obtain ⟨rest, hbehindSplit, hrest, hunmarked⟩ :=
    Text.exists_beforeFirst credentialMark_ne_nil behind
  obtain ⟨dropped, hcredential, hdropped⟩ :=
    exists_takeWhile_inScope (Text.beforeFirst credentialMark behind)
  obtain ⟨⟨hkey, hdate, hregion⟩, more, hparts, hmore⟩ := exists_pieces_iff.mp ⟨others, hpieces⟩
  have hsplit : behind = scope key date region.toList ++ (more ++ dropped ++ rest) := by
    rw [hbehindSplit, hcredential, hparts]
    simp only [List.append_assoc]
  have hin : ∀ c ∈ scope key date region.toList, inScope c = true := by
    intro c hc
    have hmem : c ∈ (Text.beforeFirst credentialMark behind).takeWhile inScope := by
      rw [hparts]
      exact List.mem_append_left more hc
    exact List.mem_takeWhile_imp hmem
  have hscope : ¬ credentialMark <:+: scope key date region.toList := by
    intro hinfix
    apply hunmarked
    rw [hcredential, hparts, List.append_assoc]
    exact hinfix.trans (List.prefix_append _ _).isInfix
  rw [infix_scope_iff (EndsPart.notMem_credentialMark (.inl rfl)), not_or, not_or] at hscope
  obtain ⟨hkeyIn, hdateIn, hregionIn⟩ := forall_inScope_scope_iff.mp hin
  rw [hauthorization, hsplit]
  exact .intro hopening (.of_inScope hkey hkeyIn hscope.1) (.of_inScope hdate hdateIn hscope.2.1)
    (.of_inScope hregion hregionIn hscope.2.2) hne (.of_parts hmore hdropped hrest)

/-- The region that is read from an authorization is the one that it has. -/
theorem region_is_read_iff_hasRegion (authorization region : String) :
    credentialRegion? authorization = some region ↔
      HasRegion authorization.toList region.toList :=
  ⟨hasRegion_of_credentialRegion?_eq, credentialRegion?_of_hasRegion⟩

/-- A second mark ends the region, and nothing behind it is looked at. -/
example : credentialRegion? "x Credential=k/d/eu-west-1Credential=k/d/us-east-1" =
    some "eu-west-1" := by
  decide

end Request

end Http

end Inspection
