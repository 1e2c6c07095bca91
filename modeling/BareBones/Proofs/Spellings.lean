import BareBones.CommandLine
import Mathlib.Data.List.Infix

set_option autoImplicit false

namespace BareBones.Options

def isAmbiguous (word : Text) : Bool :=
  word == "--t".toList || ["--t=".toList, "--=".toList].any (·.isPrefixOf word)

def spelled (word : Text) : Text :=
  (Text.cutAt '=' word).1

def rivals (word : Text) : List Text :=
  (Flag.spellings.map (·.1)).filter ((spelled word).isPrefixOf ·)

theorem spellings_apart : Flag.spellings.Pairwise fun one other =>
    ∀ beginning ∈ one.1.inits, beginning <+: other.1 → beginning <+: "--t".toList := by
  decide

theorem few_apart {α : Type} {items : List α} (apart : items.Pairwise fun _ _ => False) :
    items.length ≤ 1 := by
  cases apart with
  | nil => exact Nat.zero_le 1
  | @cons first rest none _ =>
      cases rest with
      | nil => exact Nat.le_refl 1
      | cons second _ => exact (none second List.mem_cons_self).elim

theorem kept_few {keep : Text × Flag → Option (Text × Word)} {beginning : Text}
    (begins : ∀ pair found, keep pair = some found → beginning <+: pair.1)
    (long : ¬ beginning <+: "--t".toList) : (Flag.spellings.filterMap keep).length ≤ 1 := by
  refine few_apart (spellings_apart.filterMap keep ?_)
  intro one other apart found kept another alike
  exact long (apart beginning ((List.mem_inits _ _).mpr (begins one found kept)) (begins other another alike))

theorem single_few (c : Char) (rest : Text) (single : c ≠ '-') :
    (candidates ('-' :: c :: rest)).length ≤ 1 := by
  have short : ¬ ['-', c] <+: "--t".toList := by
    intro begins
    simp at begins
    exact single begins
  unfold candidates
  split
  · rename_i same
    cases same
    exact absurd rfl single
  · refine kept_few ?_ short
    rintro ⟨spelling, flag⟩ found kept
    dsimp only at kept ⊢
    split at kept
    · rename_i spelled
      exact (eq_of_beq spelled) ▸ List.prefix_rfl
    · split at kept
      · rename_i whole
        exact (List.prefix_append ['-', c] rest).trans (List.isPrefixOf_iff_prefix.mp whole)
      · cases kept

theorem candidates_double (rest : Text) :
    ∃ value, candidates ('-' :: '-' :: rest) = Flag.spellings.filterMap fun pair =>
      if (spelled ('-' :: '-' :: rest)).isPrefixOf pair.1 then
        some (pair.1, .option pair.2 pair.1 value)
      else none :=
  ⟨_, rfl⟩

theorem double_few (rest : Text) (long : ¬ spelled ('-' :: '-' :: rest) <+: "--t".toList) :
    (candidates ('-' :: '-' :: rest)).length ≤ 1 := by
  obtain ⟨value, same⟩ := candidates_double rest
  rw [same]
  refine kept_few ?_ long
  intro pair found kept
  split at kept
  · rename_i begun
    exact List.isPrefixOf_iff_prefix.mp begun
  · cases kept

theorem clear_long (rest : Text) (clear : isAmbiguous ('-' :: '-' :: rest) = false) (more : rest ≠ []) :
    ¬ spelled ('-' :: '-' :: rest) <+: "--t".toList := by
  intro begins
  have shown : spelled ('-' :: '-' :: rest) = '-' :: '-' :: rest.takeWhile (· != '=') := rfl
  rw [shown] at begins
  cases rest with
  | nil => exact more rfl
  | cons c others =>
      by_cases equals : c = '='
      · subst equals
        simp [isAmbiguous] at clear
      · have letter : c = 't' ∧ others.takeWhile (· != '=') = [] := by
          simpa [equals] using begins
        obtain ⟨rfl, ended⟩ := letter
        cases others with
        | nil => simp [isAmbiguous] at clear
        | cons next _ =>
            have mark : next = '=' := by simpa [List.takeWhile_cons] using ended
            subst mark
            simp [isAmbiguous] at clear

theorem candidate_option {word : Text} {pair : Text × Word} (member : pair ∈ candidates word) :
    ∃ flag spelling value, pair.2 = .option flag spelling value := by
  unfold candidates at member
  split at member
  · obtain ⟨_, _, kept⟩ := List.mem_filterMap.mp member
    dsimp only at kept
    split at kept
    · cases kept
      exact ⟨_, _, _, rfl⟩
    · cases kept
  · obtain ⟨_, _, kept⟩ := List.mem_filterMap.mp member
    dsimp only at kept
    split at kept
    · cases kept
      exact ⟨_, _, _, rfl⟩
    · split at kept
      · cases kept
        exact ⟨_, _, _, rfl⟩
      · cases kept

theorem candidates_few (word : Text) (dashed : word.head? = some '-') (longer : word.length ≠ 1)
    (other : word ≠ "--".toList) (clear : isAmbiguous word = false) : (candidates word).length ≤ 1 := by
  match word with
  | [] => cases dashed
  | [_] => exact absurd rfl longer
  | first :: second :: rest =>
      cases dashed
      by_cases double : second = '-'
      · subst double
        refine double_few rest (clear_long rest clear ?_)
        rintro rfl
        exact other rfl
      · exact single_few second rest double

theorem classify_clear (word : Text) (other : word ≠ "--".toList) (clear : isAmbiguous word = false) :
    ∃ kind, classify word = .ok kind ∧ kind ≠ .mark := by
  unfold classify
  split
  · exact ⟨_, rfl, nofun⟩
  · rename_i dashed
    split
    · exact ⟨_, rfl, nofun⟩
    · split
      · exact ⟨_, rfl, nofun⟩
      · rename_i longer
        dsimp only
        split
        · exact ⟨_, rfl, nofun⟩
        · have few : (candidates word).length ≤ 1 :=
            candidates_few word (by simpa using dashed) (by simpa using longer) other clear
          cases found : candidates word with
          | nil =>
              dsimp only
              split <;> exact ⟨_, rfl, nofun⟩
          | cons pair others =>
              rw [found] at few
              have alone : others = [] := List.length_eq_zero_iff.mp (by simpa using few)
              subst alone
              have member : pair ∈ candidates word := found ▸ List.mem_cons_self
              obtain ⟨flag, spelling, value, option⟩ := candidate_option member
              exact ⟨pair.2, rfl, by rw [option]; nofun⟩

theorem classify_ambiguous (word : Text) (ambiguous : isAmbiguous word = true) :
    classify word = .error (.ambiguous word (rivals word)) := by
  have shapes : word = "--t".toList ∨
      ∃ value, word = "--t=".toList ++ value ∨ word = "--=".toList ++ value := by
    simp only [isAmbiguous, List.any_cons, List.any_nil, Bool.or_eq_true, Bool.or_false, beq_iff_eq,
      List.isPrefixOf_iff_prefix] at ambiguous
    rcases ambiguous with same | ⟨value, same⟩ | ⟨value, same⟩
    · exact .inl same
    · exact .inr ⟨value, .inl same.symm⟩
    · exact .inr ⟨value, .inr same.symm⟩
  rcases shapes with rfl | ⟨value, rfl | rfl⟩
  · decide
  · rfl
  · rfl

def untold? (words : List Text) : Option Text :=
  (words.takeWhile (· != "--".toList)).find? isAmbiguous

theorem untold_cons (word : Text) (rest : List Text) (other : word ≠ "--".toList) :
    untold? (word :: rest) = if isAmbiguous word then some word else untold? rest := by
  have kept : (word != "--".toList) = true := by simpa using other
  unfold untold?
  rw [List.takeWhile_cons, if_pos kept, List.find?_cons]
  cases isAmbiguous word <;> rfl

theorem classify_all_cons (word : Text) (rest : List Text) (other : word ≠ "--".toList) :
    classifyAll (word :: rest) = do
      let kind ← classify word
      return (word, kind) :: (← classifyAll rest) := by
  rw [classifyAll, if_neg (by simpa using other)]

theorem classify_all_untold (words : List Text) (word : Text) (untold : untold? words = some word) :
    classifyAll words = .error (.ambiguous word (rivals word)) := by
  induction words with
  | nil => cases untold
  | cons first rest ih =>
      by_cases mark : first = "--".toList
      · subst mark
        cases untold
      · rw [untold_cons first rest mark] at untold
        rw [classify_all_cons first rest mark]
        split at untold
        · rename_i ambiguous
          cases untold
          rw [classify_ambiguous word ambiguous]
          rfl
        · rename_i clear
          obtain ⟨kind, told, _⟩ := classify_clear first mark (by simpa using clear)
          rw [told, ih untold]
          rfl

theorem classify_all_told (words : List Text) (told : untold? words = none) :
    ∃ classified, classifyAll words = .ok classified ∧ classified.map (·.1) = words := by
  induction words with
  | nil => exact ⟨[], rfl, rfl⟩
  | cons first rest ih =>
      by_cases mark : first = "--".toList
      · subst mark
        exact ⟨_, rfl, by simp [Function.comp_def]⟩
      · rw [untold_cons first rest mark] at told
        rw [classify_all_cons first rest mark]
        split at told
        · cases told
        · rename_i clear
          obtain ⟨kind, plain, _⟩ := classify_clear first mark (by simpa using clear)
          obtain ⟨classified, others, same⟩ := ih told
          rw [plain, others]
          exact ⟨(first, kind) :: classified, rfl, by rw [List.map_cons, same]⟩

def watching : List Text :=
  ["-d".toList, "-t".toList, "--traceback-json".toList]

def heeding (flags : List Text) (options : Options) : Options :=
  { options with
    verbose := options.verbose || flags.contains "-d".toList
    timed := options.timed || flags.contains "-t".toList
    tracebackJson := options.tracebackJson || flags.contains "--traceback-json".toList }

theorem heeding_cons (flag : Text) (flags : List Text) (options : Options) :
    heeding (flag :: flags) options = heeding flags (heeding [flag] options) := by
  simp [heeding, Bool.or_assoc]

theorem classify_watching {flag : Text} (watched : flag ∈ watching) :
    ∃ which : Flag, classify flag = .ok (.option which flag none) ∧ which.takesValue = false ∧
      ∀ options, applyFlags options [which] = .ok (heeding [flag] options) := by
  simp only [watching, List.mem_cons, List.not_mem_nil, or_false] at watched
  rcases watched with rfl | rfl | rfl
  · exact ⟨.verbose, by decide, rfl, fun options => by simp [applyFlags, heeding]⟩
  · exact ⟨.timed, by decide, rfl, fun options => by simp [applyFlags, heeding]⟩
  · exact ⟨.tracebackJson, by decide, rfl, fun options => by simp [applyFlags, heeding]⟩

theorem watching_unmarked {flag : Text} (watched : flag ∈ watching) : flag ≠ "--".toList := by
  rintro rfl
  revert watched
  decide

theorem collect_option {which : Flag} (options : Options) (extras : List Text) (flag : Text)
    (rest : List (Text × Word)) (valueless : which.takesValue = false) :
    collect options extras ((flag, .option which flag none) :: rest) =
      (applyFlags options [which]).bind fun heeded => collect heeded extras rest := by
  conv_lhs => unfold collect
  rw [valueless]
  rfl

theorem classify_flags (flags words : List Text) (watched : ∀ flag ∈ flags, flag ∈ watching)
    {classified : List (Text × Word)} (told : classifyAll words = .ok classified) :
    ∃ marked, classifyAll (flags ++ words) = .ok marked ∧ ∀ options extras,
      collect options extras marked = collect (heeding flags options) extras classified := by
  induction flags with
  | nil => exact ⟨classified, told, fun options extras => by simp [heeding]⟩
  | cons flag flags ih =>
      obtain ⟨marked, others, collects⟩ :=
        ih fun other member => watched other (List.mem_cons_of_mem _ member)
      have here : flag ∈ watching := watched flag List.mem_cons_self
      obtain ⟨which, spelling, valueless, applies⟩ := classify_watching here
      refine ⟨(flag, .option which flag none) :: marked, ?_, fun options extras => ?_⟩
      · rw [List.cons_append, classify_all_cons _ _ (watching_unmarked here), spelling, others]
        rfl
      · rw [collect_option options extras flag marked valueless, applies]
        exact (collects (heeding [flag] options) extras).trans (by rw [heeding_cons flag flags])

theorem watching_clear {flag : Text} (watched : flag ∈ watching) : isAmbiguous flag = false := by
  revert flag
  decide

def unmarked : List Text → List Text
  | [] => []
  | word :: rest => if word == "--".toList then rest else word :: rest

def filed (flags : List Text) (file : Text) (arguments : List Text) : Options :=
  { heeding flags .initial with program := some file, arguments := unmarked arguments }

theorem positionals_told (arguments : List Text) (told : untold? arguments = none) :
    ∃ classified, classifyAll arguments = .ok classified ∧ ∀ (options : Options) (file : Text),
      options.positionals ((file, .plain) :: classified) =
        { options with program := some file, arguments := unmarked arguments } := by
  cases arguments with
  | nil => exact ⟨[], rfl, fun _ _ => rfl⟩
  | cons word rest =>
      by_cases mark : word = "--".toList
      · subst mark
        exact ⟨_, rfl, fun _ _ => by simp [positionals, unmarked, Function.comp_def]⟩
      · rw [untold_cons word rest mark] at told
        split at told
        · cases told
        · rename_i clear
          obtain ⟨kind, plain, other⟩ := classify_clear word mark (by simpa using clear)
          obtain ⟨others, later, same⟩ := classify_all_told rest told
          have kept : unmarked (word :: rest) = word :: rest := if_neg (by simpa using mark)
          refine ⟨(word, kind) :: others, ?_, fun options file => ?_⟩
          · rw [classify_all_cons word rest mark, plain, later]
            rfl
          · have listed : ((word, kind) :: others).map (·.1) = unmarked (word :: rest) := by
              rw [List.map_cons, same, kept]
            rw [← listed]
            cases kind with
            | mark => exact absurd rfl other
            | plain => rfl
            | option _ _ _ => rfl
            | unknown => rfl

theorem classify_flags_untold (flags words : List Text) (watched : ∀ flag ∈ flags, flag ∈ watching) :
    untold? (flags ++ words) = untold? words := by
  induction flags with
  | nil => rfl
  | cons flag flags ih =>
      have here : flag ∈ watching := watched flag List.mem_cons_self
      rw [List.cons_append, untold_cons _ _ (watching_unmarked here), watching_clear here]
      exact ih fun other member => watched other (List.mem_cons_of_mem _ member)

theorem plain_named (file : Text) (named : file.head? ≠ some '-') : classify file = .ok .plain := by
  rw [classify, if_pos (by simpa using named)]

theorem named_unmarked {file : Text} (named : file.head? ≠ some '-') : file ≠ "--".toList := by
  rintro rfl
  exact named rfl

theorem named_clear {file : Text} (named : file.head? ≠ some '-') : isAmbiguous file = false := by
  cases told : isAmbiguous file with
  | false => rfl
  | true => cases (classify_ambiguous file told).symm.trans (plain_named file named)

theorem read_filed (flags : List Text) (file : Text) (arguments : List Text)
    (watched : ∀ flag ∈ flags, flag ∈ watching) (named : file.head? ≠ some '-') :
    read (flags ++ file :: arguments) =
      match untold? arguments with
      | some word => .misuse (.ambiguous word (rivals word))
      | none => .start (filed flags file arguments) := by
  have same : untold? (flags ++ file :: arguments) = untold? arguments := by
    rw [classify_flags_untold flags _ watched, untold_cons _ _ (named_unmarked named), named_clear named]
    rfl
  cases untold : untold? arguments with
  | some word =>
      rw [untold] at same
      rw [read, classify_all_untold _ word same]
  | none =>
      obtain ⟨others, told, positions⟩ := positionals_told arguments untold
      have whole : classifyAll (file :: arguments) = .ok ((file, .plain) :: others) := by
        rw [classify_all_cons _ _ (named_unmarked named), plain_named file named, told]
        rfl
      obtain ⟨marked, classified, collects⟩ := classify_flags flags _ watched whole
      rw [read, classified]
      dsimp only
      rw [collects]
      simp only [collect]
      rw [positions]
      rfl

example : read ["-d".toList, "f.bb".toList, "-h".toList, "--t".toList] =
    .misuse (.ambiguous "--t".toList ["--time".toList, "--traceback-json".toList]) := by
  decide

end BareBones.Options
