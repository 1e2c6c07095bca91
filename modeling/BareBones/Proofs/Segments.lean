import BareBones.Proofs.Escaping
import Mathlib.Data.List.Basic

set_option autoImplicit false

namespace BareBones

inductive Segment where
  | escape (c : Char)
  | span (token : Text) (closed : Env.closeBrace ∉ token)
  | plain (c : Char) (ordinary : c ≠ '\\') (outside : c ≠ Env.openBrace)
deriving DecidableEq, Repr

namespace Segment

def source : Segment → Text
  | .escape c => ['\\', c]
  | .span token _ => Env.openBrace :: token ++ [Env.closeBrace]
  | .plain c _ _ => [c]

def written (env : Env) : Segment → Except Failure Text
  | .escape c | .plain c _ _ => .ok [c]
  | .span token _ => do Env.orBreakdown (← env.resolve true token).written

theorem source_length (segment : Segment) : 0 < segment.source.length := by
  cases segment <;> simp [source]

end Segment

inductive Remainder where
  | nothing
  | backslash
  | opened (token : Text) (unclosed : Env.closeBrace ∉ token)
deriving DecidableEq, Repr

def Remainder.source : Remainder → Text
  | .nothing => []
  | .backslash => ['\\']
  | .opened token _ => Env.openBrace :: token

theorem Segment.begins (text : Text) :
    (∃ remainder : Remainder, text = remainder.source) ∨
      ∃ (segment : Segment) (rest : Text), text = segment.source ++ rest := by
  cases text with
  | nil => exact .inl ⟨.nothing, rfl⟩
  | cons c rest =>
      by_cases escapes : c = '\\'
      · subst escapes
        cases rest with
        | nil => exact .inl ⟨.backslash, rfl⟩
        | cons d later => exact .inr ⟨.escape d, later, rfl⟩
      by_cases opens : c = Env.openBrace
      · subst opens
        by_cases closes : Env.closeBrace ∈ rest
        · obtain ⟨token, later, rfl, closed⟩ := List.eq_append_cons_of_mem closes
          exact .inr ⟨.span token closed, later, by simp [source]⟩
        · exact .inl ⟨.opened rest closes, rfl⟩
      · exact .inr ⟨.plain c escapes opens, rest, rfl⟩

theorem Segment.nothing_before (segment : Segment) (rest : Text) (remainder : Remainder) :
    remainder.source ≠ segment.source ++ rest := by
  intro same
  cases remainder with
  | nothing => cases segment <;> cases same
  | backslash =>
      cases segment with
      | escape c => cases same
      | span token closed => cases same
      | plain c ordinary _ => exact ordinary (List.cons.inj same).1.symm
  | opened token unclosed =>
      cases segment with
      | escape c => cases same
      | span inner _ =>
          have inside : token = inner ++ [Env.closeBrace] ++ rest := (List.cons.inj same).2
          exact unclosed (by simp [inside])
      | plain c _ outside => exact outside (List.cons.inj same).1.symm

theorem Text.cut_unique {mark : Char} {one other rest later : Text} (before : mark ∉ one) (clear : mark ∉ other)
    (same : one ++ mark :: rest = other ++ mark :: later) : one = other ∧ rest = later := by
  induction one generalizing other with
  | nil =>
      cases other with
      | nil => exact ⟨rfl, (List.cons.inj same).2⟩
      | cons c others => exact absurd (List.mem_cons.mpr (.inl (List.cons.inj same).1)) clear
  | cons c rest ih =>
      cases other with
      | nil => exact absurd (List.mem_cons.mpr (.inl (List.cons.inj same).1.symm)) before
      | cons d others =>
          obtain ⟨rfl, inner⟩ := List.cons.inj same
          obtain ⟨rfl, behind⟩ := ih (fun member => before (List.mem_cons_of_mem c member))
            (fun member => clear (List.mem_cons_of_mem c member)) inner
          exact ⟨rfl, behind⟩

theorem Segment.first_unique (one other : Segment) (rest later : Text)
    (same : one.source ++ rest = other.source ++ later) : one = other ∧ rest = later := by
  cases one with
  | escape c =>
      cases other with
      | escape d =>
          cases same
          exact ⟨rfl, rfl⟩
      | span _ _ => cases same
      | plain d ordinary _ => exact absurd (List.cons.inj same).1.symm ordinary
  | span token closed =>
      cases other with
      | escape d => cases same
      | span inner clear =>
          have inside : token ++ Env.closeBrace :: rest = inner ++ Env.closeBrace :: later := by
            simpa [source] using same
          obtain ⟨rfl, behind⟩ := Text.cut_unique closed clear inside
          exact ⟨rfl, behind⟩
      | plain d _ outside => exact absurd (List.cons.inj same).1.symm outside
  | plain c ordinary outside =>
      cases other with
      | escape d => exact absurd (List.cons.inj same).1 ordinary
      | span _ _ => exact absurd (List.cons.inj same).1 outside
      | plain d _ _ =>
          cases same
          exact ⟨rfl, rfl⟩

theorem Remainder.source_injective (one other : Remainder) (same : one.source = other.source) : one = other := by
  cases one <;> cases other <;> cases same <;> rfl

structure Template where
  segments : List Segment
  remainder : Remainder
deriving DecidableEq, Repr

namespace Template

def source (template : Template) : Text :=
  template.segments.flatMap Segment.source ++ template.remainder.source

theorem source_cons (segment : Segment) (segments : List Segment) (remainder : Remainder) :
    source ⟨segment :: segments, remainder⟩ = segment.source ++ source ⟨segments, remainder⟩ := by
  simp [source]

theorem source_surjective (text : Text) : ∃ template : Template, template.source = text := by
  rcases Segment.begins text with ⟨remainder, rfl⟩ | ⟨segment, rest, whole⟩
  · exact ⟨⟨[], remainder⟩, rfl⟩
  · have shorter : rest.length < text.length := by
      have proper := segment.source_length
      rw [whole, List.length_append]
      omega
    obtain ⟨⟨segments, remainder⟩, later⟩ := source_surjective rest
    exact ⟨⟨segment :: segments, remainder⟩, by rw [source_cons, later, whole]⟩
termination_by text.length

theorem source_injective (one other : Template) (same : one.source = other.source) : one = other := by
  obtain ⟨segments, remainder⟩ := one
  obtain ⟨others, left⟩ := other
  induction segments generalizing others with
  | nil =>
      cases others with
      | nil => rw [Remainder.source_injective remainder left same]
      | cons segment rest =>
          rw [source_cons] at same
          exact absurd same (segment.nothing_before _ remainder)
  | cons segment rest ih =>
      rw [source_cons] at same
      cases others with
      | nil => exact absurd same.symm (segment.nothing_before _ left)
      | cons first later =>
          rw [source_cons] at same
          obtain ⟨rfl, behind⟩ := segment.first_unique first _ _ same
          cases ih later behind
          rfl

end Template

theorem each_fails {α β ε : Type} (compute : α → Except ε β) (items : List α) (failure : ε) :
    items.mapM compute = .error failure ↔ ∃ before item after, items = before ++ item :: after ∧
      (∀ earlier ∈ before, ∃ b, compute earlier = .ok b) ∧ compute item = .error failure := by
  induction items with
  | nil =>
      constructor
      · nofun
      · rintro ⟨before, _, _, parts, _⟩
        cases before <;> cases parts
  | cons first rest ih =>
      rw [List.mapM_cons]
      cases computed : compute first with
      | error other =>
          constructor
          · intro same
            cases same
            exact ⟨[], first, rest, rfl, nofun, computed⟩
          · rintro ⟨before, item, after, parts, earlier, fails⟩
            cases before with
            | nil =>
                cases parts
                cases computed.symm.trans fails
                rfl
            | cons head others =>
                cases parts
                obtain ⟨b, answers⟩ := earlier first List.mem_cons_self
                cases computed.symm.trans answers
      | ok b =>
          have later : (do return b :: (← rest.mapM compute) : Except ε (List β)) = .error failure ↔
              rest.mapM compute = .error failure := by
            cases rest.mapM compute <;> simp
          refine later.trans (ih.trans ?_)
          constructor
          · rintro ⟨before, item, after, rfl, earlier, fails⟩
            exact ⟨first :: before, item, after, rfl, List.forall_mem_cons.mpr ⟨⟨b, computed⟩, earlier⟩, fails⟩
          · rintro ⟨before, item, after, parts, earlier, fails⟩
            cases before with
            | nil =>
                cases parts
                cases computed.symm.trans fails
            | cons head others =>
                cases parts
                exact ⟨others, item, after, rfl, fun other member => earlier other (List.mem_cons_of_mem _ member),
                  fails⟩

namespace Env

section

variable (env : Env)

theorem expand_unclosed (characters token : Text) (unclosed : closeBrace ∉ token) :
    env.expandFrom (.operand characters) token = .ok [] := by
  induction token generalizing characters with
  | nil => rw [expandFrom]
  | cons c others ih =>
      have other : c ≠ closeBrace := fun same => unclosed (by simp [same])
      rw [expandFrom, if_neg other]
      exact ih _ fun member => unclosed (List.mem_cons_of_mem c member)

theorem expand_segment (segment : Segment) (rest : Text) :
    env.expand (segment.source ++ rest) = (do return (← segment.written env) ++ (← env.expand rest)) := by
  unfold expand
  cases segment with
  | escape c =>
      change env.expandFrom .plain ('\\' :: c :: rest) = _
      rw [expandFrom, if_pos rfl, expandFrom]
      rfl
  | span token closed =>
      have whole : (Segment.span token closed).source ++ rest = openBrace :: (token ++ closeBrace :: rest) := by
        simp [Segment.source]
      rw [whole, expandFrom, if_neg (by decide), if_pos rfl, expand_closed env [] token rest closed]
      rfl
  | plain c ordinary outside =>
      change env.expandFrom .plain (c :: rest) = _
      rw [expandFrom, if_neg ordinary, if_neg outside]
      rfl

theorem expand_remainder (remainder : Remainder) : env.expand remainder.source = .ok [] := by
  cases remainder with
  | nothing => rfl
  | backslash => rfl
  | opened token unclosed =>
      change env.expandFrom .plain (openBrace :: token) = _
      rw [expandFrom, if_neg (by decide), if_pos rfl]
      exact expand_unclosed env [] token unclosed

theorem expand_behind (segments : List Segment) (rest : Text) :
    env.expand (segments.flatMap Segment.source ++ rest) = (do
      let texts ← segments.mapM (Segment.written env)
      return texts.flatten ++ (← env.expand rest)) := by
  induction segments with
  | nil =>
      cases ran : env.expand rest <;> simp [ran]
  | cons segment others ih =>
      rw [List.flatMap_cons, List.append_assoc, expand_segment, ih, List.mapM_cons]
      simp only [bind_assoc, pure_bind, List.flatten_cons, List.append_assoc]

end

-- Every text is made of segments in one way, and is expanded segment by segment: it fails as the first span
-- does that fails, and a text that leaves nothing behind its segments is expanded apart from what follows it.
theorem expand_segments (text : Text) :
    ∃ template : Template, template.source = text ∧ (∀ other : Template, other.source = text → other = template) ∧
      ∀ env : Env,
        env.expand text = (template.segments.mapM (Segment.written env)).map List.flatten ∧
        (∀ failure, env.expand text = .error failure ↔ ∃ before token closed after,
          template.segments = before ++ Segment.span token closed :: after ∧
            (∀ segment ∈ before, ∃ written, segment.written env = .ok written) ∧
            (env.resolve true token >>= fun value => orBreakdown value.written) = .error failure) ∧
        (template.remainder = .nothing → ∀ later,
          env.expand (text ++ later) = (do return (← env.expand text) ++ (← env.expand later))) := by
  obtain ⟨template, rfl⟩ := Template.source_surjective text
  refine ⟨template, rfl, fun other same => other.source_injective template same, fun env => ?_⟩
  have whole : env.expand template.source = (template.segments.mapM (Segment.written env)).map List.flatten := by
    rw [Template.source, expand_behind, expand_remainder]
    cases template.segments.mapM (Segment.written env) with
    | error failure => rfl
    | ok texts => exact congrArg Except.ok (List.append_nil _)
  refine ⟨whole, fun failure => ?_, fun clear later => ?_⟩
  · have failed : env.expand template.source = .error failure ↔
        template.segments.mapM (Segment.written env) = .error failure := by
      rw [whole]
      cases template.segments.mapM (Segment.written env) <;> simp [Except.map]
    rw [failed, each_fails]
    constructor
    · rintro ⟨before, segment, after, parts, earlier, fails⟩
      cases segment with
      | escape c => cases fails
      | plain c _ _ => cases fails
      | span token closed => exact ⟨before, token, closed, after, parts, earlier, fails⟩
    · rintro ⟨before, token, closed, after, parts, earlier, fails⟩
      exact ⟨before, .span token closed, after, parts, earlier, fails⟩
  · rw [whole, Template.source, clear]
    change env.expand (template.segments.flatMap Segment.source ++ [] ++ later) = _
    rw [List.append_nil, expand_behind]
    cases template.segments.mapM (Segment.written env) <;> rfl

end Env

end BareBones
