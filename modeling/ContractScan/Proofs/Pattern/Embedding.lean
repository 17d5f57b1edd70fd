import ContractScan.Proofs.Pattern.Adequacy

/-! # Patterns in longer lines

A line can be continued on both sides. Text in front of it is seen by anchors and boundaries, but not by those
that come after a character that the pattern has taken itself; so a pattern may still hold look-aheads with
boundaries in them. Text behind it is seen by everything that looks ahead. `Pattern.ignoresLeft` and
`Pattern.keepsRight` are checks on the pattern alone for what it takes not to be lost in a longer line.
-/

namespace ContractScan.Pattern

/-- The pattern never matches without taking a character. -/
def takesSome : Pattern → Bool
  | .char _ => true
  | .span _ bounds _ => 0 < bounds.min
  | .seq first second => first.takesSome || second.takesSome
  | .alt first second => first.takesSome && second.takesSome
  | .group _ body => body.takesSome
  | _ => false

/-- The condition does not see how far the line goes back, provided that it does not start here if `inside`. -/
def Anchor.ignoresLeft (inside : Bool) : Anchor → Bool
  | .lineEnd | .anyLineEnd | .textEnd => true
  | _ => inside

/-- What the pattern takes does not depend on how far the line goes back, provided that it does not start
here if `inside`. -/
def ignoresLeft (inside : Bool) : Pattern → Bool
  | .empty | .char _ | .span _ _ _ => true
  | .seq first second => first.ignoresLeft inside && second.ignoresLeft (inside || first.takesSome)
  | .alt first second => first.ignoresLeft inside && second.ignoresLeft inside
  | .iterate body _ _ => body.ignoresLeft inside
  | .group _ body => body.ignoresLeft inside
  | .anchor condition => condition.ignoresLeft inside
  | .look .ahead _ body => body.ignoresLeft inside
  | .look (.behind _) _ _ | .again _ | .atomic _ | .conditional _ _ _ => false

/-- What the pattern takes it also takes when the line goes on. -/
def keepsRight : Pattern → Bool
  | .empty | .char _ | .span _ _ _ | .anchor .start | .anchor .lineStart => true
  | .seq first second | .alt first second => first.keepsRight && second.keepsRight
  | .iterate body _ _ | .group _ body | .look .ahead false body => body.keepsRight
  | _ => false

variable {pattern : Pattern} {before text rest : List Char}

theorem takesSome_takes (h : pattern.takesSome = true) (taken : pattern.Takes before text rest) : text ≠ [] := by
  induction pattern generalizing before text rest with
  | char test =>
      obtain ⟨c, rfl, -⟩ := taken
      simp
  | span test bounds preference =>
      have positive := of_decide_eq_true h
      have enough := taken.1.1
      exact List.ne_nil_of_length_pos (by omega)
  | seq first second ih ih' =>
      rw [takesSome, Bool.or_eq_true] at h
      obtain ⟨one, other, rfl, taken, taken'⟩ := taken
      rcases h with h | h
      · simp [ih h taken]
      · simp [ih' h taken']
  | alt first second ih ih' =>
      rw [takesSome, Bool.and_eq_true] at h
      rcases taken with taken | taken
      · exact ih h.1 taken
      · exact ih' h.2 taken
  | group index body ih => exact ih h taken
  | _ => cases h

theorem Anchor.holds_append_left {condition : Anchor} {inside : Bool} (h : condition.ignoresLeft inside = true)
    (place : inside = true → before ≠ []) (context : List Char) :
    condition.holds (.between (context ++ before) rest) = condition.holds (.between before rest) := by
  cases condition with
  | lineEnd | anyLineEnd | textEnd => rfl
  | _ =>
      obtain ⟨c, earlier, nearest⟩ := List.exists_cons_of_ne_nil (List.reverse_ne_nil_iff.mpr (place h))
      simp only [holds, Cursor.between, List.reverse_append, nearest, List.cons_append]
      rfl

/-- Pieces that do not see what stands far before them form chains that do not. -/
theorem Chained.append_left {P : (before text rest : List Char) → Prop} {inside : Bool} {context : List Char}
    (h : ∀ {before text rest : List Char}, (inside = true → before ≠ []) →
      (P (context ++ before) text rest ↔ P before text rest))
    (place : inside = true → before ≠ []) (n : Nat) :
    Chained P n (context ++ before) text rest ↔ Chained P n before text rest := by
  induction n generalizing before text with
  | zero => rfl
  | succ n ih =>
      simp only [Chained]
      refine exists_congr fun first => exists_congr fun others => and_congr_right fun _ => ?_
      rw [h place, List.append_assoc, ih fun i => by simp [place i]]

theorem takes_append_left {inside : Bool} (h : pattern.ignoresLeft inside = true)
    (place : inside = true → before ≠ []) (context : List Char) :
    pattern.Takes (context ++ before) text rest ↔ pattern.Takes before text rest := by
  induction pattern generalizing inside before text rest with
  | empty | char | span => rfl
  | seq first second ih ih' =>
      rw [ignoresLeft, Bool.and_eq_true] at h
      refine exists_congr fun one => exists_congr fun other => and_congr_right fun _ => ?_
      rw [ih h.1 place]
      refine and_congr_right fun taken => ?_
      rw [List.append_assoc, ih' h.2]
      intro beyond
      rcases Bool.or_eq_true _ _ ▸ beyond with i | some
      · simp [place i]
      · simp [takesSome_takes some taken]
  | alt first second ih ih' =>
      rw [ignoresLeft, Bool.and_eq_true] at h
      exact or_congr (ih h.1 place) (ih' h.2 place)
  | iterate body bounds preference ih =>
      refine exists_congr fun n => and_congr_right fun _ => ?_
      exact Chained.append_left (fun place => ih h place) place n
  | group index body ih => exact ih h place
  | again index | atomic body | conditional index yes no => cases h
  | anchor condition =>
      rw [Takes, Takes, Anchor.holds_append_left h place]
  | look direction negated body ih =>
      cases direction with
      | ahead =>
          refine and_congr_right fun _ => iff_congr ?_ Iff.rfl
          refine exists_congr fun seen => exists_congr fun after => and_congr_right fun _ => ?_
          exact ih h place
      | behind width => cases h

theorem takes_append_right (h : pattern.keepsRight = true) (more : List Char)
    (taken : pattern.Takes before text rest) : pattern.Takes before text (rest ++ more) := by
  induction pattern generalizing before text rest with
  | empty | char | span => exact taken
  | seq first second ih ih' =>
      rw [keepsRight, Bool.and_eq_true] at h
      obtain ⟨one, other, rfl, taken, taken'⟩ := taken
      refine ⟨one, other, rfl, ?_, ih' h.2 taken'⟩
      rw [← List.append_assoc]
      exact ih h.1 taken
  | alt first second ih ih' =>
      rw [keepsRight, Bool.and_eq_true] at h
      exact taken.imp (ih h.1) (ih' h.2)
  | iterate body bounds preference ih =>
      obtain ⟨n, allowed, chained⟩ := taken
      refine ⟨n, allowed, ?_⟩
      clear allowed
      induction n generalizing before text with
      | zero => exact chained
      | succ n chain =>
          obtain ⟨first, others, rfl, piece, chained⟩ := chained
          refine ⟨first, others, rfl, ?_, chain chained⟩
          rw [← List.append_assoc]
          exact ih h piece
  | group index body ih => exact ih h taken
  | anchor condition =>
      cases condition with
      | start | lineStart => exact taken
      | _ => cases h
  | look direction negated body ih =>
      cases direction with
      | ahead =>
          cases negated with
          | false =>
              obtain ⟨rfl, sees⟩ := taken
              obtain ⟨seen, after, rfl, taken⟩ := sees.mpr rfl
              exact ⟨rfl, fun _ => rfl, fun _ => ⟨seen, after ++ more, by simp, ih h taken⟩⟩
          | true => cases h
      | behind width => cases h
  | _ => cases h

variable {line : List Char} (free : pattern.referenceFree = true)

include free

theorem search_append_left (h : pattern.ignoresLeft false = true) (context : List Char)
    (found : pattern.search line = true) : pattern.search (context ++ line) = true := by
  obtain ⟨before, rest, rfl, text, later, rfl, taken⟩ := (search_iff free).mp found
  refine (search_iff free).mpr ⟨context ++ before, text ++ later, by simp, text, later, rfl, ?_⟩
  exact (takes_append_left h (by simp) context).mpr taken

theorem search_append_right (h : pattern.keepsRight = true) (more : List Char)
    (found : pattern.search line = true) : pattern.search (line ++ more) = true := by
  obtain ⟨before, rest, rfl, text, later, rfl, taken⟩ := (search_iff free).mp found
  exact (search_iff free).mpr ⟨before, text ++ later ++ more, by simp, text, later ++ more, by simp,
    takes_append_right h more taken⟩

end ContractScan.Pattern
