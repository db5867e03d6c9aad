import RuleGate.Config.Loader
import RuleGate.Proofs.Text.Lines

/-! # Directives in a rules file

A rules file has a directive or a remark on each line, with any blanks around it. Its directives
are compiled as if they had been written behind those of the settings: blanks around a directive
never matter, and remarks are left out before anything is counted.
-/
namespace RuleGate

/-! ## Blanks around directives -/

theorem Rule.parse_trim (d : Text) (line : Nat) : parse (Text.trim d) line = parse d line := by
  unfold parse
  rw [Text.trim_trim]

theorem RuleSet.compileFrom_map_trim (line : Nat) (ds : List Text) :
    compileFrom line (ds.map Text.trim) = compileFrom line ds := by
  induction ds generalizing line with
  | nil => rfl
  | cons d ds ih => rw [List.map_cons, compileFrom, compileFrom, Rule.parse_trim, ih]

/-- Texts that are equal up to the blanks around them are compiled alike. -/
theorem RuleSet.compile_congr {ds es : List Text} (h : ds.map Text.trim = es.map Text.trim) :
    compile ds = compile es := by
  unfold compile
  rw [← compileFrom_map_trim, h, compileFrom_map_trim]

namespace Config

variable {line content : Text} {ds : List Text}

/-! ## Lines of a rules file -/

def IsRemark (line : Text) : Prop := Text.trim line = [] ∨ (Text.trim line).head? = some '#'

instance : DecidablePred IsRemark := fun _ => inferInstanceAs (Decidable (_ ∨ _))

inductive HoldsLine : List Text → Text → Prop
  | remark {t : Text} (h : IsRemark t) : HoldsLine [] t
  | directive {before after : Text} (d : Text) (hbefore : Text.IsBlanks before)
    (hafter : Text.IsBlanks after) : HoldsLine [d] (before ++ d ++ after)

/-- The content of a rules file with these directives, one on each line that is no remark. Lines end
as they like, the last one possibly not at all. -/
inductive Holds : List Text → Text → Prop
  | lastLine {ds : List Text} {line : Text} (hline : '\n' ∉ line) (h : HoldsLine ds line) :
    Holds ds line
  | line {ds es : List Text} {line ending content : Text} (hline : '\n' ∉ line)
    (h : HoldsLine ds line) (hending : Text.IsLineEnd ending)
    (hrest : Holds es content) : Holds (ds ++ es) (line ++ ending ++ content)

theorem isRemark_congr {k : Text} (h : Text.trim k = Text.trim line) :
    IsRemark k ↔ IsRemark line := by
  unfold IsRemark
  rw [h]

def counts : Text → Bool
  | [] | '#' :: _ => false
  | _ => true

theorem counts_iff {t : Text} : counts t = true ↔ ¬ (t = [] ∨ t.head? = some '#') := by
  cases t with
  | nil => simp [counts]
  | cons c t =>
    by_cases hc : c = '#'
    · simp [hc, counts]
    · have hcounts : counts (c :: t) = true := by
        unfold counts
        split <;> simp_all
      simp [hcounts, hc]

theorem counts_trim (line : Text) : counts (Text.trim line) = true ↔ ¬ IsRemark line := counts_iff

def directivesOf (lines : List Text) : List Text := (lines.map Text.trim).filter counts

theorem map_mapIdx {α β γ : Type} {f : Nat → α → β} {g : β → γ} {h : α → γ}
    (hg : ∀ i a, g (f i a) = h a) (l : List α) : (l.mapIdx f).map g = l.map h := by
  induction l generalizing f with
  | nil => rfl
  | cons a l ih => rw [List.mapIdx_cons, List.map_cons, List.map_cons, hg, ih fun i => hg (i + 1)]

theorem map_directive_inlineDirectives (rules : List Text) :
    (inlineDirectives rules).map Located.directive = rules := by
  calc (inlineDirectives rules).map Located.directive
      = rules.map id := map_mapIdx (fun _ _ => by rfl) rules
    _ = rules := List.map_id rules

/-- The directives on the lines of a file, with the numbers of their lines. -/
def onLines (path : Text) (lines : List Text) : List Located :=
  ((lines.mapIdx fun i line => (i + 1, Text.trim line)).filter fun l => counts l.2).map fun l =>
    ⟨path ++ ':' :: Text.ofNat l.1, l.2⟩

theorem fileDirectives_eq (path content : Text) :
    fileDirectives path content = onLines path (Text.lines content) := rfl

theorem map_directive_onLines (path : Text) (lines : List Text) :
    (onLines path lines).map Located.directive = directivesOf lines := by
  let numbered := lines.mapIdx fun i line => (i + 1, Text.trim line)
  calc (onLines path lines).map Located.directive
      = (numbered.filter (counts ∘ Prod.snd)).map Prod.snd := List.map_map
    _ = (numbered.map Prod.snd).filter counts := List.filter_map.symm
    _ = directivesOf lines := congrArg (List.filter counts) (map_mapIdx (fun _ _ => by rfl) _)

theorem directivesOf_cons_of_isRemark (h : IsRemark line) (lines : List Text) :
    directivesOf (line :: lines) = directivesOf lines := by
  unfold directivesOf
  rw [List.map_cons, List.filter_cons_of_neg (by simp [counts_trim, h])]

theorem directivesOf_cons_of_not_isRemark (h : ¬ IsRemark line) (lines : List Text) :
    directivesOf (line :: lines) = Text.trim line :: directivesOf lines := by
  unfold directivesOf
  rw [List.map_cons, List.filter_cons_of_pos (by simp [counts_trim, h])]

theorem directivesOf_cons_of_holdsLine {k : Text} (h : HoldsLine ds line)
    (hds : ∀ d ∈ ds, ¬ IsRemark d) (hk : Text.trim k = Text.trim line) (lines : List Text) :
    directivesOf (k :: lines) = ds.map Text.trim ++ directivesOf lines := by
  cases h with
  | remark hremark => exact directivesOf_cons_of_isRemark ((isRemark_congr hk).mpr hremark) lines
  | directive d hbefore hafter =>
    rw [Text.trim_append_append hbefore hafter] at hk
    have hd : ¬ IsRemark d := hds d List.mem_cons_self
    rw [directivesOf_cons_of_not_isRemark (mt (isRemark_congr hk).mp hd), hk]
    rfl

/-- Whatever stands around them, the directives of a file are those that it holds, trimmed. -/
theorem directivesOf_lines_of_holds (h : Holds ds content) (hds : ∀ d ∈ ds, ¬ IsRemark d) :
    directivesOf (Text.lines content) = ds.map Text.trim := by
  induction h with
  | @lastLine ds line hline h =>
    have hone := directivesOf_cons_of_holdsLine h hds rfl []
    rw [Text.lines_of_not_mem hline]
    split
    · rename_i hempty
      subst hempty
      rw [← List.append_nil (ds.map Text.trim)]
      exact hone
    · exact hone.trans (List.append_nil _)
  | @line ds es line ending content hline h hending hrest ih =>
    obtain ⟨first, hfirst, hlines⟩ := Text.exists_lines_append hline hending content
    obtain ⟨hds, hes⟩ := List.forall_mem_append.mp hds
    rw [hlines, directivesOf_cons_of_holdsLine h hds hfirst, ih hes, List.map_append]

/-! ## Loading -/

/-- Places of directives matter for where an error is said to be, and for nothing else. -/
theorem compileLocated_congr {ls ks : List Located}
    (h : RuleSet.compile (ls.map Located.directive) =
      RuleSet.compile (ks.map Located.directive)) :
    (∃ rules, compileLocated ls = .ok rules ∧ compileLocated ks = .ok rules) ∨
      (∃ e place other, compileLocated ls = .error (.rule place e) ∧
        compileLocated ks = .error (.rule other e)) := by
  unfold compileLocated
  rw [h]
  cases RuleSet.compile (ks.map Located.directive) with
  | ok rules => exact .inl ⟨rules, rfl, rfl⟩
  | error e => exact .inr ⟨e, _, _, rfl, rfl⟩

section

variable {files : Files} {base file : Text} {back : List Text}

theorem loadRules_inline (files : Files) (settings : Settings) (base : Text) (rules : List Text) :
    loadRules files { settings with rules := rules, rulesFile := none } base =
      compileLocated (inlineDirectives rules) := rfl

theorem loadRules_file (hread : files.readText (Path.join base file) = .ok content)
    (settings : Settings) (rules : List Text) :
    loadRules files { settings with rules := rules, rulesFile := some file } base =
      compileLocated
        (inlineDirectives rules ++ fileDirectives (Path.join base file) content) := by
  unfold loadRules
  simp only [hread]
  rfl

/-- It does not matter which of the directives stand in the settings and which behind them in a
rules file: the rules are the same, and so is the error if one of the directives is bad, except for
the place that it names. -/
theorem loadRules_split (settings : Settings) (front : List Text)
    (hback : ∀ d ∈ back, ¬ IsRemark d) (hholds : Holds back content)
    (hread : files.readText (Path.join base file) = .ok content) :
    let whole := loadRules files { settings with rules := front ++ back, rulesFile := none } base
    let split := loadRules files { settings with rules := front, rulesFile := some file } base
    (∃ rules, whole = .ok rules ∧ split = .ok rules) ∨
      (∃ e place other, whole = .error (.rule place e) ∧ split = .error (.rule other e)) := by
  intro whole split
  have hwhole : whole = compileLocated (inlineDirectives (front ++ back)) :=
    loadRules_inline files settings base (front ++ back)
  have hsplit : split = compileLocated
      (inlineDirectives front ++ fileDirectives (Path.join base file) content) :=
    loadRules_file hread settings front
  rw [hwhole, hsplit]
  apply compileLocated_congr
  apply RuleSet.compile_congr
  rw [List.map_append (f := Located.directive), map_directive_inlineDirectives,
    map_directive_inlineDirectives, fileDirectives_eq, map_directive_onLines,
    directivesOf_lines_of_holds hholds hback, List.map_append, List.map_append, List.map_map,
    funext (f := Text.trim ∘ Text.trim) Text.trim_trim]

/-- A file with remarks, blanks around a bad directive, both kinds of ends and a last line with
none. -/
theorem loadRules_split_remarks :
    let bad := text "^/b$ /c [Z]"
    let good := text "!^/p/ - [F]"
    let content := text "# old\r\n \t^/b$ /c [Z] \r\n\n!^/p/ - [F]"
    let files : Files := ⟨.directory [(text "site.rules", .file (Utf8.encode content))], ['/']⟩
    (∀ d ∈ [bad, good], ¬ IsRemark d) ∧ Holds [bad, good] content ∧
    files.readText (Path.join [] (text "site.rules")) = .ok content ∧
    ∃ place other,
      loadRules files { rules := [text "^/a$ /b", bad, good] } [] =
        .error (.rule place ⟨2, bad, .unknownFlag (text "Z")⟩) ∧
      loadRules files { rules := [text "^/a$ /b"], rulesFile := some (text "site.rules") } [] =
        .error (.rule other ⟨2, bad, .unknownFlag (text "Z")⟩) := by
  intro bad good content files
  have hback : ∀ d ∈ [bad, good], ¬ IsRemark d := by decide +kernel
  have hcontent : content = text "# old" ++ text "\r\n" ++ (text " \t" ++ bad ++ text " " ++
      text "\r\n" ++ ([] ++ text "\n" ++ ([] ++ good ++ []))) := by decide +kernel
  have hholds : Holds [bad, good] content := by
    rw [hcontent]
    exact .line (by decide) (.remark (by decide)) (by decide)
      (.line (by decide) (.directive bad (by decide) (by decide)) (by decide)
        (.line (by decide) (.remark (by decide)) (by decide)
          (.lastLine (by decide) (.directive good (by decide) (by decide)))))
  have hread : files.readText (Path.join [] (text "site.rules")) = .ok content := by
    decide +kernel
  have hwhole : loadRules files { rules := [text "^/a$ /b", bad, good] } [] =
      .error (.rule (text "rules[1]") ⟨2, bad, .unknownFlag (text "Z")⟩) := by rfl
  refine ⟨hback, hholds, hread, ?_⟩
  rcases loadRules_split {} [text "^/a$ /b"] hback hholds hread with
    ⟨rules, hrules, -⟩ | ⟨e, place, other, herror, hsplit⟩
  · exact absurd (hwhole.symm.trans hrules) nofun
  · obtain ⟨rfl, rfl⟩ := ConfigError.rule.inj (Except.error.inj (hwhole.symm.trans herror))
    exact ⟨_, other, hwhole, hsplit⟩

end

end Config

end RuleGate
