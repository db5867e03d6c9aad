import Mathlib.Data.List.Forall2
import RuleGate.Proofs.Config.RulesFile
import RuleGate.Proofs.Rule.Directive

/-! # Places of bad directives

Three things are counted while rules are loaded: places in the list of the settings from zero, lines
of the rules file from one, with remarks, and directives to compile from one, without them. The
directive that an error counts is the first bad one, and the place given is that of this directive.
-/
namespace RuleGate

namespace Rule

variable {d : Text} {line : Nat} {r : Rule} {e : RuleError}

def Compiles (d : Text) (r : Rule) : Prop := ∀ line, parse d line = .ok r

theorem compiles_of_parse (h : parse d line = .ok r) : Compiles d r :=
  fun _ => parse_eq_ok_iff.mpr (parse_eq_ok_iff.mp h)

theorem compiles_trim : Compiles (Text.trim d) r ↔ Compiles d r := by
  simp only [Compiles, parse_trim]

theorem line_of_parse_error (h : parse d line = .error e) : e.line = line := by
  obtain ⟨fault, -, rfl⟩ := mapError_eq_error.mp h
  rfl

end Rule

namespace RuleSet

variable {line : Nat} {d : Text} {ds : List Text} {rules : RuleSet} {e : RuleError}

theorem compileFrom_eq_ok_iff :
    compileFrom line ds = .ok rules ↔ List.Forall₂ Rule.Compiles ds rules := by
  induction ds generalizing line rules with
  | nil =>
    rw [List.forall₂_nil_left_iff, compileFrom, Except.ok.injEq]
    exact eq_comm
  | cons d ds ih =>
    rw [compileFrom, bind_eq_ok, List.forall₂_cons_left_iff]
    constructor
    · rintro ⟨r, hr, h⟩
      obtain ⟨back, hback, h⟩ := bind_eq_ok.mp h
      exact ⟨r, back, Rule.compiles_of_parse hr, ih.mp hback, (Except.ok.inj h).symm⟩
    · rintro ⟨r, back, hr, hback, rfl⟩
      exact ⟨r, hr line, bind_eq_ok.mpr ⟨back, ih.mpr hback, rfl⟩⟩

theorem compile_eq_ok_iff : compile ds = .ok rules ↔ List.Forall₂ Rule.Compiles ds rules :=
  compileFrom_eq_ok_iff

theorem compileFrom_cons_eq_error_iff :
    compileFrom line (d :: ds) = .error e ↔
      Rule.parse d line = .error e ∨
        (∃ r, Rule.Compiles d r) ∧ compileFrom (line + 1) ds = .error e := by
  rw [compileFrom, bind_eq_error]
  apply or_congr_right
  constructor
  · rintro ⟨r, hr, h⟩
    rcases bind_eq_error.mp h with hrest | ⟨back, -, hback⟩
    · exact ⟨⟨r, Rule.compiles_of_parse hr⟩, hrest⟩
    · cases hback
  · rintro ⟨⟨r, hr⟩, hrest⟩
    exact ⟨r, hr line, bind_eq_error.mpr (.inl hrest)⟩

/-- An error is that of the first directive that is not compiled. -/
theorem compileFrom_eq_error_iff :
    compileFrom line ds = .error e ↔
      ∃ front d back, ds = front ++ d :: back ∧ (∀ x ∈ front, ∃ r, Rule.Compiles x r) ∧
        Rule.parse d (line + front.length) = .error e := by
  induction ds generalizing line with
  | nil => simp [compileFrom]
  | cons d ds ih =>
    have hnumber : ∀ front : List Text,
        line + (d :: front).length = line + 1 + front.length := by
      intro front
      rw [List.length_cons]
      omega
    rw [compileFrom_cons_eq_error_iff, ih]
    constructor
    · rintro (hd | ⟨hd, front, y, back, rfl, hfront, hy⟩)
      · exact ⟨[], d, ds, rfl, List.forall_mem_nil _, hd⟩
      · refine ⟨d :: front, y, back, rfl, List.forall_mem_cons.mpr ⟨hd, hfront⟩, ?_⟩
        rwa [hnumber]
    · rintro ⟨_ | ⟨x, front⟩, y, back, hds, hfront, hy⟩
      · obtain ⟨rfl, rfl⟩ := List.cons.inj hds
        exact .inl hy
      · obtain ⟨rfl, rfl⟩ := List.cons.inj hds
        obtain ⟨hd, hfront⟩ := List.forall_mem_cons.mp hfront
        rw [hnumber] at hy
        exact .inr ⟨hd, front, y, back, rfl, hfront, hy⟩

end RuleSet

namespace Config

variable {ls : List Located} {rules : RuleSet} {err : ConfigError}

/-! ## Located directives -/

theorem exists_forall₂_compiles_iff {ds : List Text} :
    (∃ rules, List.Forall₂ Rule.Compiles ds rules) ↔ ∀ d ∈ ds, ∃ r, Rule.Compiles d r := by
  induction ds with
  | nil => simp
  | cons d ds ih =>
    rw [List.forall_mem_cons, ← ih]
    constructor
    · rintro ⟨_, _ | ⟨hd, hds⟩⟩
      exact ⟨⟨_, hd⟩, _, hds⟩
    · rintro ⟨⟨r, hd⟩, rules, hds⟩
      exact ⟨r :: rules, .cons hd hds⟩

/-- The number of an error leads back to the directive that it is about. -/
theorem compileLocated_eq_error_iff :
    compileLocated ls = .error err ↔
      ∃ front l back e, ls = front ++ l :: back ∧
        (∀ k ∈ front, ∃ r, Rule.Compiles k.directive r) ∧
        Rule.parse l.directive (front.length + 1) = .error e ∧ err = .rule l.origin e := by
  rw [compileLocated, mapError_eq_error, RuleSet.compile]
  simp only [RuleSet.compileFrom_eq_error_iff]
  constructor
  · rintro ⟨e, ⟨front, d, back, hds, hfront, hd⟩, rfl⟩
    obtain ⟨before, after, rfl, rfl, hafter⟩ := List.map_eq_append_iff.mp hds
    obtain ⟨l, after, rfl, rfl, -⟩ := List.map_eq_cons_iff.mp hafter
    rw [List.length_map] at hd
    have hline : e.line - 1 = before.length := by
      rw [Rule.line_of_parse_error hd, Nat.add_sub_cancel_left]
    refine ⟨before, l, after, e, rfl, by simpa using hfront, by rwa [Nat.add_comm], ?_⟩
    simp [hline]
  · rintro ⟨front, l, back, e, rfl, hfront, hl, rfl⟩
    have hline : e.line - 1 = front.length := by
      rw [Rule.line_of_parse_error hl, Nat.add_sub_cancel]
    refine ⟨e, ⟨front.map Located.directive, l.directive, back.map Located.directive, ?_, ?_, ?_⟩,
      ?_⟩
    · simp
    · simpa using hfront
    · rwa [List.length_map, Nat.add_comm]
    · simp [hline]

/-! ## Lines of a rules file -/

section

variable {path line : Text} {lines : List Text} {front back : List Located} {l : Located}

theorem onLines_concat_of_isRemark (h : IsRemark line) :
    onLines path (lines ++ [line]) = onLines path lines := by
  unfold onLines
  rw [List.mapIdx_concat, List.filter_append, List.filter_cons_of_neg, List.filter_nil,
    List.append_nil]
  simpa [counts_trim] using h

theorem onLines_concat_of_not_isRemark (h : ¬ IsRemark line) :
    onLines path (lines ++ [line]) = onLines path lines ++
      [⟨path ++ ':' :: Text.ofNat (lines.length + 1), Text.trim line⟩] := by
  unfold onLines
  rw [List.mapIdx_concat, List.filter_append, List.filter_cons_of_pos, List.filter_nil,
    List.map_append]
  · rfl
  · simpa [counts_trim] using h

theorem onLines_prefix (path : Text) (lines after : List Text) :
    onLines path lines <+: onLines path (lines ++ after) := by
  induction after using List.reverseRecOn with
  | nil => exact (List.append_nil lines).symm ▸ List.prefix_rfl
  | append_singleton after line ih =>
    rw [← List.append_assoc]
    by_cases h : IsRemark line
    · rwa [onLines_concat_of_isRemark h]
    · rw [onLines_concat_of_not_isRemark h]
      exact ih.trans (List.prefix_append _ _)

/-- A directive stands on a line of a file, and `front` are the directives of the lines before. -/
def StandsOn (path : Text) (lines : List Text) (front : List Located) (l : Located) : Prop :=
  ∃ before line after, lines = before ++ line :: after ∧ ¬ IsRemark line ∧
    front = onLines path before ∧
    l = ⟨path ++ ':' :: Text.ofNat (before.length + 1), Text.trim line⟩

theorem StandsOn.concat (h : StandsOn path lines front l) (line : Text) :
    StandsOn path (lines ++ [line]) front l := by
  obtain ⟨before, found, after, rfl, hfound⟩ := h
  exact ⟨before, found, after ++ [line], List.append_assoc _ _ _, hfound⟩

theorem standsOn_of_onLines (h : onLines path lines = front ++ l :: back) :
    StandsOn path lines front l := by
  induction lines using List.reverseRecOn generalizing back with
  | nil => exact absurd h (by simp [onLines])
  | append_singleton lines line ih =>
    by_cases hline : IsRemark line
    · rw [onLines_concat_of_isRemark hline] at h
      exact (ih h).concat line
    · rw [onLines_concat_of_not_isRemark hline] at h
      rcases List.eq_nil_or_concat back with rfl | ⟨back, last, rfl⟩
      · obtain ⟨hfront, hl⟩ := List.append_inj' h rfl
        exact ⟨lines, line, [], rfl, hline, hfront.symm, (List.singleton_inj.mp hl).symm⟩
      · rw [List.concat_eq_append, ← List.cons_append, ← List.append_assoc] at h
        exact (ih (List.append_inj' h rfl).1).concat line

theorem standsOn_iff :
    StandsOn path lines front l ↔ ∃ back, onLines path lines = front ++ l :: back := by
  constructor
  · rintro ⟨before, line, after, rfl, hline, rfl, rfl⟩
    obtain ⟨back, hback⟩ := onLines_prefix path (before ++ [line]) after
    rw [onLines_concat_of_not_isRemark hline, List.append_assoc, List.append_assoc] at hback
    exact ⟨back, hback.symm⟩
  · rintro ⟨back, hback⟩
    exact standsOn_of_onLines hback

/-! ## Directives of the settings -/

theorem inlineDirectives_eq_append_iff {rules : List Text} :
    (∃ back, inlineDirectives rules = front ++ l :: back) ↔
      ∃ before d after, rules = before ++ d :: after ∧ front = inlineDirectives before ∧
        l = ⟨text "rules[" ++ Text.ofNat before.length ++ text "]", d⟩ := by
  constructor
  · rintro ⟨back, h⟩
    obtain ⟨before, rest, rfl, hfront, hrest⟩ := List.mapIdx_eq_append_iff.mp h
    obtain ⟨d, after, rfl, hl, -⟩ := List.mapIdx_eq_cons_iff.mp hrest
    rw [Nat.zero_add] at hl
    exact ⟨before, d, after, rfl, hfront.symm, hl.symm⟩
  · rintro ⟨before, d, after, rfl, rfl, rfl⟩
    unfold inlineDirectives
    rw [List.mapIdx_append, List.mapIdx_cons, Nat.zero_add]
    exact ⟨_, rfl⟩

theorem append_eq_append_cons_iff {α : Type} {xs ys front : List α} {x : α} :
    (∃ back, xs ++ ys = front ++ x :: back) ↔
      (∃ back, xs = front ++ x :: back) ∨
        ∃ later, front = xs ++ later ∧ ∃ back, ys = later ++ x :: back := by
  constructor
  · rintro ⟨back, h⟩
    rcases List.append_eq_append_iff.mp h with ⟨later, rfl, rfl⟩ | ⟨_ | ⟨y, rest⟩, rfl, hrest⟩
    · exact .inr ⟨later, rfl, back, rfl⟩
    · refine .inr ⟨[], ?_, back, hrest.symm⟩
      rw [List.append_nil, List.append_nil]
    · obtain ⟨rfl, -⟩ := List.cons.inj hrest
      exact .inl ⟨rest, rfl⟩
  · rintro (⟨back, rfl⟩ | ⟨later, rfl, back, rfl⟩)
    · exact ⟨back ++ ys, List.append_assoc _ _ _⟩
    · exact ⟨back, (List.append_assoc _ _ _).symm⟩

end

/-! ## Loading -/

section

variable {files : Files} {settings : Settings} {base path content origin : Text}
  {inline lines : List Text} {e : RuleError}

/-- What is read from the rules file of settings and from where. Without such a file nothing is. -/
inductive ReadsRules (files : Files) (settings : Settings) (base : Text) : Text → Text → Prop
  | absent {path : Text} (h : settings.rulesFile = none) : ReadsRules files settings base path []
  | file {file content : Text} (h : settings.rulesFile = some file)
    (hread : files.readText (Path.join base file) = .ok content) :
    ReadsRules files settings base (Path.join base file) content

def directives (inline lines : List Text) : List Text :=
  inline ++ lines.filter fun line => ¬ IsRemark line

/-- The first directive that is not compiled, by its place and with its error. Places in the
settings are counted from zero, lines of the file from one with all remarks, and the number in the
error is that among all directives. -/
inductive FirstBad (inline lines : List Text) (path : Text) : Text → RuleError → Prop
  | inline {before after : List Text} {d : Text} {e : RuleError}
    (hd : inline = before ++ d :: after) (hbefore : ∀ x ∈ before, ∃ r, Rule.Compiles x r)
    (herror : Rule.parse d (before.length + 1) = .error e) :
    FirstBad inline lines path (text "rules[" ++ Text.ofNat before.length ++ text "]") e
  | line {before after : List Text} {line : Text} {e : RuleError}
    (hline : lines = before ++ line :: after) (hremark : ¬ IsRemark line)
    (hbefore : ∀ x ∈ directives inline before, ∃ r, Rule.Compiles x r)
    (herror : Rule.parse line ((directives inline before).length + 1) = .error e) :
    FirstBad inline lines path (path ++ ':' :: Text.ofNat (before.length + 1)) e

theorem FirstBad.origin_ne_nil (h : FirstBad inline lines path origin e) : origin ≠ [] := by
  cases h <;> simp [text]

theorem loadRules_of_readsRules (h : ReadsRules files settings base path content) :
    loadRules files settings base =
      compileLocated (inlineDirectives settings.rules ++ onLines path (Text.lines content)) := by
  cases h with
  | absent hfile =>
    rw [loadRules, hfile]
    exact congrArg compileLocated (List.append_nil _).symm
  | file hfile hread =>
    simp only [loadRules, hfile, hread]
    rfl

theorem directivesOf_eq (lines : List Text) :
    directivesOf lines = (lines.filter fun line => ¬ IsRemark line).map Text.trim := by
  rw [directivesOf, List.filter_map]
  congr 1
  apply List.filter_congr
  intro line _
  simp [← counts_trim]

theorem map_trim_located (path : Text) (inline lines : List Text) :
    ((inlineDirectives inline ++ onLines path lines).map Located.directive).map Text.trim =
      (directives inline lines).map Text.trim := by
  rw [List.map_append, map_directive_inlineDirectives, map_directive_onLines, directives,
    directivesOf_eq, List.map_append, List.map_append, List.map_map,
    funext (f := Text.trim ∘ Text.trim) Text.trim_trim]

theorem length_located (path : Text) (inline lines : List Text) :
    (inlineDirectives inline ++ onLines path lines).length = (directives inline lines).length := by
  simpa using congrArg List.length (map_trim_located path inline lines)

theorem located_compiles_iff :
    (∀ k ∈ inlineDirectives inline ++ onLines path lines, ∃ r, Rule.Compiles k.directive r) ↔
      ∀ d ∈ directives inline lines, ∃ r, Rule.Compiles d r := by
  have htrim := congrArg (fun ds => ∀ d ∈ ds, ∃ r, Rule.Compiles d r)
    (map_trim_located path inline lines)
  simpa only [List.forall_mem_map, Rule.compiles_trim, eq_iff_iff] using htrim

theorem length_inlineDirectives (inline : List Text) :
    (inlineDirectives inline).length = inline.length := List.length_mapIdx

theorem inline_compiles_iff :
    (∀ k ∈ inlineDirectives inline, ∃ r, Rule.Compiles k.directive r) ↔
      ∀ d ∈ inline, ∃ r, Rule.Compiles d r := by
  conv_rhs => rw [← map_directive_inlineDirectives inline, List.forall_mem_map]

theorem compileLocated_eq_ok_iff {rules : RuleSet} :
    compileLocated (inlineDirectives inline ++ onLines path lines) = .ok rules ↔
      List.Forall₂ Rule.Compiles (directives inline lines) rules := by
  rw [compileLocated, mapError_eq_ok, RuleSet.compile_congr (map_trim_located path inline lines),
    RuleSet.compile_eq_ok_iff]

/-- A bad directive is in the settings, or on a line of the file behind all of the settings. -/
theorem compileLocated_eq_error_iff_firstBad {err : ConfigError} :
    compileLocated (inlineDirectives inline ++ onLines path lines) = .error err ↔
      ∃ origin e, err = .rule origin e ∧ FirstBad inline lines path origin e := by
  rw [compileLocated_eq_error_iff]
  constructor
  · rintro ⟨front, l, back, e, hls, hfront, herror, rfl⟩
    refine ⟨_, e, rfl, ?_⟩
    rcases append_eq_append_cons_iff.mp ⟨back, hls⟩ with hinline | ⟨later, rfl, hlater⟩
    · obtain ⟨before, d, after, hd, rfl, rfl⟩ := inlineDirectives_eq_append_iff.mp hinline
      rw [length_inlineDirectives] at herror
      exact .inline hd (inline_compiles_iff.mp hfront) herror
    · obtain ⟨before, line, after, hline, hremark, rfl, rfl⟩ := standsOn_iff.mpr hlater
      rw [length_located, Rule.parse_trim] at herror
      exact .line hline hremark (located_compiles_iff.mp hfront) herror
  · rintro ⟨origin, e, rfl, h⟩
    cases h with
    | inline hd hbefore herror =>
      obtain ⟨back, hback⟩ := append_eq_append_cons_iff.mpr
        (.inl (inlineDirectives_eq_append_iff.mpr ⟨_, _, _, hd, rfl, rfl⟩))
      rw [← length_inlineDirectives] at herror
      exact ⟨_, _, back, e, hback, inline_compiles_iff.mpr hbefore, herror, rfl⟩
    | line hline hremark hbefore herror =>
      obtain ⟨back, hback⟩ := append_eq_append_cons_iff.mpr
        (.inr ⟨_, rfl, standsOn_iff.mp ⟨_, _, _, hline, hremark, rfl, rfl⟩⟩)
      rw [← Rule.parse_trim, ← length_located path] at herror
      exact ⟨_, _, back, e, hback, located_compiles_iff.mpr hbefore, herror, rfl⟩

/-- Rules are loaded exactly if all directives are compiled, and they are then those of the
directives in their order. Otherwise the error is that of the first bad directive, with its
place. -/
theorem loadRules_firstBad (h : ReadsRules files settings base path content) :
    (∀ rules, loadRules files settings base = .ok rules ↔
      List.Forall₂ Rule.Compiles (directives settings.rules (Text.lines content)) rules) ∧
    ((∃ rules, loadRules files settings base = .ok rules) ↔
      ∀ d ∈ directives settings.rules (Text.lines content), ∃ r, Rule.Compiles d r) ∧
    (∀ err, loadRules files settings base = .error err ↔
      ∃ origin e, err = .rule origin e ∧
        FirstBad settings.rules (Text.lines content) path origin e) ∧
    ∀ origin e, loadRules files settings base = .error (.rule origin e) → origin ≠ [] := by
  rw [loadRules_of_readsRules h]
  refine ⟨fun _ => compileLocated_eq_ok_iff, ?_, fun _ => compileLocated_eq_error_iff_firstBad, ?_⟩
  · simp only [compileLocated_eq_ok_iff]
    exact exists_forall₂_compiles_iff
  · intro origin e hload
    obtain ⟨_, _, herror, hbad⟩ := compileLocated_eq_error_iff_firstBad.mp hload
    obtain ⟨rfl, rfl⟩ := ConfigError.rule.inj herror
    exact hbad.origin_ne_nil

/-- A bad directive in a file, behind a comment, an empty line and two good ones. -/
theorem loadRules_firstBad_line :
    let path := text "site.rules"
    let content := text "# old\n\n^/b$ /c\n\t^/a$ /b [Z]\n"
    let files : Files := ⟨.directory [(path, .file (Utf8.encode content))], ['/']⟩
    let settings : Settings := { rules := [text "^/x$ /y"], rulesFile := some path }
    let e : RuleError := ⟨3, text "^/a$ /b [Z]", .unknownFlag (text "Z")⟩
    ReadsRules files settings [] path content ∧
    FirstBad settings.rules (Text.lines content) path (text "site.rules:4") e ∧
    loadRules files settings [] = .error (.rule (text "site.rules:4") e) := by
  intro path content files settings e
  have hpath : Path.join [] path = path := by decide +kernel
  have hreads : ReadsRules files settings [] path content := by
    have hread : files.readText (Path.join [] path) = .ok content := by decide +kernel
    have hfile : ReadsRules files settings [] (Path.join [] path) content := .file rfl hread
    rwa [hpath] at hfile
  have hlines : Text.lines content =
      [text "# old", [], text "^/b$ /c"] ++ text "\t^/a$ /b [Z]" :: [] := by decide +kernel
  have hbefore : ∀ d ∈ directives settings.rules [text "# old", [], text "^/b$ /c"],
      ∃ r, Rule.Compiles d r := by
    have hdirectives : directives settings.rules [text "# old", [], text "^/b$ /c"] =
        [text "^/x$ /y", text "^/b$ /c"] := by decide +kernel
    rw [hdirectives, List.forall_mem_cons, List.forall_mem_singleton]
    exact ⟨⟨_, fun _ => rfl⟩, _, fun _ => rfl⟩
  have hparse : Rule.parse (text "\t^/a$ /b [Z]") 3 = .error e := by rfl
  have horigin : text "site.rules:4" = path ++ ':' :: Text.ofNat 4 := by decide +kernel
  have hbad : FirstBad settings.rules (Text.lines content) path (text "site.rules:4") e := by
    rw [horigin]
    exact .line hlines (by decide +kernel) hbefore hparse
  exact ⟨hreads, hbad, ((loadRules_firstBad hreads).2.2.1 _).mpr ⟨_, _, rfl, hbad⟩⟩

end

end Config

end RuleGate
