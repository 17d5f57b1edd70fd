import ContractScan.Proofs.Pattern.Meaning

/-! # Matching finds what the pattern means

`Pattern.run` tries one way to match after the other and hands each to what has to follow. For a pattern
without references to groups, in which nothing keeps to its first way to match, it succeeds exactly when some
text that the pattern can take leads to a place from which what follows succeeds, whatever the preferences of its
repetitions. So searching a line succeeds
exactly when the pattern can take something somewhere in it.
-/

namespace ContractScan.Pattern

/-- The pattern refers to no group, and no part of it keeps to the first way to match. -/
def referenceFree : Pattern → Bool
  | .seq first second => first.referenceFree && second.referenceFree
  | .alt first second => first.referenceFree && second.referenceFree
  | .iterate body _ _ => body.referenceFree
  | .group _ body => body.referenceFree
  | .look _ _ body => body.referenceFree
  | .again _ | .atomic _ | .conditional _ _ _ => false
  | _ => true

@[simp] theorem Cursor.between_left (before rest : List Char) :
    (between before rest).left = rest.length := rfl

theorem Cursor.eq_between (cursor : Cursor) : cursor = .between cursor.before.reverse cursor.rest := by
  cases cursor with
  | mk before rest left left_eq =>
      subst left_eq
      simp [between, ofLine]

@[simp] theorem Cursor.next?_between_cons (before : List Char) (c : Char) (rest : List Char) :
    (between before (c :: rest)).next? = some (c, between (before ++ [c]) rest) := by
  simp [between, ofLine, next?]

theorem Cursor.back?_between {width : Nat} {early late : List Char} (h : late.length = width)
    (rest : List Char) :
    (between (early ++ late) rest).back? width = some (between early (late ++ rest)) := by
  induction width generalizing late rest with
  | zero => simp [List.length_eq_zero_iff.mp h, back?]
  | succ width ih =>
      rcases List.eq_nil_or_concat late with rfl | ⟨others, c, rfl⟩
      · simp at h
      · rw [back?]
        have prev : (between (early ++ (others ++ [c])) rest).previous? =
            some (between (early ++ others) (c :: rest)) := by
          simp [between, ofLine, previous?]
        rw [List.concat_eq_append, prev, Option.bind_some, ih (by simpa using h)]
        simp

theorem Cursor.back?_eq_none {width : Nat} {before : List Char} (h : before.length < width)
    (rest : List Char) : (between before rest).back? width = none := by
  induction width generalizing before rest with
  | zero => simp at h
  | succ width ih =>
      rcases List.eq_nil_or_concat before with rfl | ⟨others, c, rfl⟩
      · rfl
      · have prev : (between (others ++ [c]) rest).previous? = some (between others (c :: rest)) := by
          simp [between, ofLine, previous?]
        rw [back?, List.concat_eq_append, prev, Option.bind_some, ih (by simpa using h)]

/-- Whether what follows succeeds depends on the place alone, as far as it lies in `rest` after `before`:
`ok` tells at which places it does. -/
def Blind (before rest : List Char) (follow : Follow) (ok : (before rest : List Char) → Prop) : Prop :=
  ∀ text later captures, rest = text ++ later →
    ((follow ⟨.between (before ++ text) later, captures⟩).isSome = true ↔ ok (before ++ text) later)

/-- Some text from here on has the property, and the place after it is one of those that `ok` tells. -/
def Leads (P : (before text rest : List Char) → Prop) (ok : (before rest : List Char) → Prop)
    (before rest : List Char) : Prop :=
  ∃ text later, rest = text ++ later ∧ P before text later ∧ ok (before ++ text) later

/-- Trying succeeds exactly when the property leads to a place from which what follows succeeds. -/
def Adequate (attempt : State → Follow → Option State) (P : (before text rest : List Char) → Prop) : Prop :=
  ∀ ⦃before rest captures follow ok⦄, Blind before rest follow ok →
    ((attempt ⟨.between before rest, captures⟩ follow).isSome = true ↔ Leads P ok before rest)

variable {P : (before text rest : List Char) → Prop} {ok : (before rest : List Char) → Prop}
  {attempt : State → Follow → Option State} {follow : Follow} {before rest : List Char}
  {captures : List (Nat × List Char)}

theorem Blind.here (h : Blind before rest follow ok) (captures : List (Nat × List Char)) :
    (follow ⟨.between before rest, captures⟩).isSome = true ↔ ok before rest := by
  simpa using h [] rest captures rfl

theorem Blind.after {text : List Char} (h : Blind before (text ++ rest) follow ok) :
    Blind (before ++ text) rest follow ok := by
  rintro more later captures rfl
  simpa using h (text ++ more) later captures (by simp)

/-- Trying one thing before what follows leaves it to the place. -/
theorem Adequate.blind (h : Adequate attempt P) (blind : Blind before rest follow ok) :
    Blind before rest (fun later => attempt later follow) (Leads P ok) := by
  rintro text later captures rfl
  exact h blind.after

theorem leads_condition {C : (before rest : List Char) → Prop}
    (h : ∀ before text rest, P before text rest ↔ text = [] ∧ C before rest) :
    Leads P ok before rest ↔ C before rest ∧ ok before rest := by
  constructor
  · rintro ⟨text, later, rfl, taken, accepted⟩
    obtain ⟨rfl, holds⟩ := (h _ _ _).mp taken
    rw [List.append_nil] at accepted
    exact ⟨holds, accepted⟩
  · rintro ⟨holds, accepted⟩
    exact ⟨[], rest, rfl, (h _ _ _).mpr ⟨rfl, holds⟩, by rwa [List.append_nil]⟩

theorem leads_nothing (h : ∀ before text rest, P before text rest ↔ text = []) :
    Leads P ok before rest ↔ ok before rest :=
  (leads_condition (C := fun _ _ => True) (by simpa using h)).trans (iff_of_eq (true_and _))

theorem leads_append {Q R : (before text rest : List Char) → Prop}
    (h : ∀ before text rest, R before text rest ↔ ∃ one other, text = one ++ other ∧
      P before one (other ++ rest) ∧ Q (before ++ one) other rest) :
    Leads R ok before rest ↔ Leads P (Leads Q ok) before rest := by
  constructor
  · rintro ⟨text, after, rfl, taken, accepted⟩
    obtain ⟨one, other, rfl, first, second⟩ := (h _ _ _).mp taken
    rw [← List.append_assoc] at accepted
    exact ⟨one, other ++ after, by simp, first, other, after, rfl, second, accepted⟩
  · rintro ⟨one, later, rfl, first, other, after, rfl, second, accepted⟩
    rw [List.append_assoc] at accepted
    exact ⟨one ++ other, after, by simp, (h _ _ _).mpr ⟨one, other, rfl, first, second⟩, accepted⟩

theorem isSome_orElse {α : Type} (a : Option α) (b : Unit → Option α) :
    (a.orElse b).isSome = true ↔ a.isSome = true ∨ (b ()).isSome = true := by
  cases a <;> simp

namespace State

theorem step?_between_cons (test : CharTest) (c : Char) :
    (⟨.between before (c :: rest), captures⟩ : State).step? test =
      if test.accepts c then some ⟨.between (before ++ [c]) rest, captures⟩ else none := by
  simp [step?]

theorem steps?_eq_some {test : CharTest} {n : Nat} {state : State} :
    (⟨.between before rest, captures⟩ : State).steps? test n = some state ↔
      ∃ text later, rest = text ++ later ∧ text.length = n ∧ (∀ c ∈ text, test.accepts c = true) ∧
        state = ⟨.between (before ++ text) later, captures⟩ := by
  induction n generalizing before rest with
  | zero =>
      constructor
      · intro h
        cases h
        exact ⟨[], rest, rfl, rfl, by simp, by simp⟩
      · rintro ⟨text, later, rfl, empty, -, rfl⟩
        simp [List.length_eq_zero_iff.mp empty, steps?]
  | succ n ih =>
      rw [steps?]
      cases rest with
      | nil =>
          constructor
          · intro h
            cases h
          · rintro ⟨text, later, split, size, -⟩
            cases text <;> simp at split size
      | cons c rest =>
          rw [step?_between_cons]
          by_cases accepted : test.accepts c = true
          · rw [if_pos accepted, Option.bind_some, ih]
            constructor
            · rintro ⟨text, later, rfl, rfl, all, rfl⟩
              exact ⟨c :: text, later, rfl, rfl, List.forall_mem_cons.mpr ⟨accepted, all⟩, by simp⟩
            · rintro ⟨text, later, split, size, all, rfl⟩
              cases text with
              | nil => simp at size
              | cons first text =>
                  cases split
                  exact ⟨text, later, rfl, by simpa using size, (List.forall_mem_cons.mp all).2, by simp⟩
          · rw [if_neg accepted]
            constructor
            · intro h
              cases h
            · rintro ⟨text, later, split, size, all, -⟩
              cases text with
              | nil => simp at size
              | cons first text =>
                  cases split
                  exact absurd (all c (.head _)) accepted

theorem steps?_add (test : CharTest) (m n : Nat) (state : State) :
    state.steps? test (m + n) = (state.steps? test m).bind (steps? test n) := by
  induction m generalizing state with
  | zero => simp [steps?]
  | succ m ih =>
      rw [Nat.succ_add, steps?, steps?]
      cases state.step? test with
      | none => rfl
      | some later => exact ih later

theorem mem_reach {test : CharTest} {limit : Nat} {start state : State} {nearer : List State} :
    state ∈ start.reach test limit nearer ↔
      state ∈ nearer ∨ ∃ n, n ≤ limit ∧ start.steps? test n = some state := by
  induction limit generalizing start nearer with
  | zero => simp [reach, steps?, or_comm, eq_comm]
  | succ limit ih =>
      -- Either no character is taken, or one is and at most `limit` more.
      have split : (∃ n, n ≤ limit + 1 ∧ start.steps? test n = some state) ↔ start = state ∨
          ∃ n, n ≤ limit ∧ (start.step? test).bind (steps? test n) = some state := by
        constructor
        · rintro ⟨n, bound, reached⟩
          cases n with
          | zero => exact .inl (Option.some.inj reached)
          | succ n => exact .inr ⟨n, by omega, reached⟩
        · rintro (rfl | ⟨n, bound, reached⟩)
          · exact ⟨0, by omega, rfl⟩
          · exact ⟨n + 1, by omega, reached⟩
      rw [split, reach]
      cases start.step? test with
      | none => simp [or_comm, eq_comm]
      | some further =>
          simp only [Option.bind_some]
          rw [ih, List.mem_cons]
          tauto

theorem le_left_of_steps? {test : CharTest} {n : Nat} {start state : State}
    (h : start.steps? test n = some state) : n ≤ start.cursor.left := by
  obtain ⟨cursor, captures⟩ := start
  rw [cursor.eq_between] at h
  obtain ⟨text, later, split, rfl, -⟩ := steps?_eq_some.mp h
  rw [cursor.left_eq, split, List.length_append]
  omega

/-- After the least number of characters, the states of a run do not depend on the order of trial. -/
theorem mem_spans_of_steps? {test : CharTest} {bounds : Bounds} {preference : Preference}
    {start middle state : State} (reached : start.steps? test bounds.min = some middle) :
    state ∈ start.spans test bounds preference ↔
      ∃ n, n ≤ bounds.max.elim middle.cursor.left (· - bounds.min) ∧ middle.steps? test n = some state := by
  rw [spans, reached]
  cases preference <;> cases bounds.max <;> simp [mem_reach]

theorem mem_spans_iff_steps? {test : CharTest} {bounds : Bounds} {preference : Preference}
    {start state : State} :
    state ∈ start.spans test bounds preference ↔
      ∃ n, bounds.Allows n ∧ start.steps? test n = some state := by
  cases reached : start.steps? test bounds.min with
  | none =>
      rw [spans, reached]
      constructor
      · intro h
        cases h
      · rintro ⟨n, ⟨enough, -⟩, stepped⟩
        obtain ⟨more, rfl⟩ := Nat.exists_eq_add_of_le enough
        rw [steps?_add, reached] at stepped
        cases stepped
  | some middle =>
      have continued (n : Nat) : start.steps? test (bounds.min + n) = middle.steps? test n := by
        rw [steps?_add, reached, Option.bind_some]
      rw [mem_spans_of_steps? reached]
      constructor
      · rintro ⟨n, bound, stepped⟩
        refine ⟨bounds.min + n, ⟨Nat.le_add_right _ n, fun most limited => ?_⟩,
          (continued n).trans stepped⟩
        rw [limited, Option.elim_some] at bound
        omega
      · rintro ⟨n, ⟨enough, limited⟩, stepped⟩
        obtain ⟨more, rfl⟩ := Nat.exists_eq_add_of_le enough
        rw [continued] at stepped
        refine ⟨more, ?_, stepped⟩
        cases given : bounds.max with
        | none => exact le_left_of_steps? stepped
        | some most =>
            have bound := limited most given
            rw [Option.elim_some]
            omega

theorem mem_spans {test : CharTest} {bounds : Bounds} {preference : Preference} {state : State} :
    state ∈ (⟨.between before rest, captures⟩ : State).spans test bounds preference ↔
      ∃ text later, rest = text ++ later ∧ bounds.Allows text.length ∧
        (∀ c ∈ text, test.accepts c = true) ∧ state = ⟨.between (before ++ text) later, captures⟩ := by
  rw [mem_spans_iff_steps?]
  simp only [steps?_eq_some]
  constructor
  · rintro ⟨n, allowed, text, later, split, rfl, rest⟩
    exact ⟨text, later, split, allowed, rest⟩
  · rintro ⟨text, later, split, allowed, rest⟩
    exact ⟨text.length, allowed, text, later, split, rfl, rest⟩

end State

theorem char_adequate (test : CharTest) : Adequate (char test).run (char test).Takes := by
  intro before rest captures follow ok blind
  rw [run]
  constructor
  · intro found
    cases rest with
    | nil => cases found
    | cons c rest =>
        rw [State.step?_between_cons] at found
        by_cases accepted : test.accepts c = true
        · rw [if_pos accepted, Option.bind_some] at found
          exact ⟨[c], rest, rfl, ⟨c, rfl, accepted⟩, (blind [c] rest captures rfl).mp found⟩
        · rw [if_neg accepted] at found
          cases found
  · rintro ⟨_, later, rfl, ⟨c, rfl, accepted⟩, reached⟩
    rw [List.singleton_append, State.step?_between_cons, if_pos accepted, Option.bind_some]
    exact (blind [c] later captures rfl).mpr reached

theorem span_adequate (test : CharTest) (bounds : Bounds) (preference : Preference) :
    Adequate (span test bounds preference).run (span test bounds preference).Takes := by
  intro before rest captures follow ok blind
  rw [run, List.isSome_findSome?, List.any_eq_true]
  constructor
  · rintro ⟨state, reached, found⟩
    obtain ⟨text, later, rfl, allowed, all, rfl⟩ := State.mem_spans.mp reached
    exact ⟨text, later, rfl, ⟨allowed, all⟩, (blind text later captures rfl).mp found⟩
  · rintro ⟨text, later, rfl, ⟨allowed, all⟩, reached⟩
    exact ⟨_, State.mem_spans.mpr ⟨text, later, rfl, allowed, all, rfl⟩,
      (blind text later captures rfl).mpr reached⟩

theorem leads_chained_zero : Leads (Chained P 0) ok before rest ↔ ok before rest :=
  leads_nothing fun _ _ _ => Iff.rfl

theorem leads_chained_succ {n : Nat} :
    Leads (Chained P (n + 1)) ok before rest ↔ Leads P (Leads (Chained P n) ok) before rest :=
  leads_append fun _ _ _ => Iff.rfl

theorem times_adequate (h : Adequate attempt P) (n : Nat) : Adequate (times attempt n) (Chained P n) := by
  induction n with
  | zero =>
      intro before rest captures follow ok blind
      rw [times, blind.here, leads_chained_zero]
  | succ n ih =>
      intro before rest captures follow ok blind
      rw [times, h (ih.blind blind), leads_chained_succ]

/-- Pieces that take nothing can be left out: a chain is empty, or starts with a piece that takes
something and goes on with a shorter chain. -/
theorem Chained.skip {n : Nat} {text : List Char} (h : Chained P n before text rest) :
    text = [] ∨ ∃ first others m, first ≠ [] ∧ m < n ∧ text = first ++ others ∧
      P before first (others ++ rest) ∧ Chained P m (before ++ first) others rest := by
  induction n with
  | zero => exact .inl h
  | succ n ih =>
      obtain ⟨first, others, rfl, taken, chained⟩ := h
      by_cases empty : first = []
      · subst empty
        rw [List.append_nil] at chained
        obtain nothing | ⟨next, remaining, m, nonempty, fewer, split, piece, chain⟩ := ih chained
        · exact .inl nothing
        · exact .inr ⟨next, remaining, m, nonempty, by omega, split, piece, chain⟩
      · exact .inr ⟨first, others, n, empty, by omega, rfl, taken, chained⟩

/-- At most so many pieces, if there is a limit. -/
def Within (limit : Option Nat) (n : Nat) : Prop :=
  ∀ most, limit = some most → n ≤ most

theorem within_pred {limit : Option Nat} {n : Nat} (opened : limit ≠ some 0) :
    Within (limit.map (· - 1)) n ↔ Within limit (n + 1) := by
  cases limit with
  | none => simp [Within]
  | some most =>
      have positive : most ≠ 0 := fun zero => opened (congrArg some zero)
      simp only [Within, Option.map_some, Option.some.injEq, forall_eq']
      omega

/-- Where an iteration leads: if it took nothing, what follows has to succeed; otherwise a shorter chain
may go on. -/
def Onward (P : (before text rest : List Char) → Prop) (limit : Option Nat)
    (ok : (before rest : List Char) → Prop) (size : Nat) (before rest : List Char) : Prop :=
  if rest.length = size then ok before rest
  else ∃ n, Within (limit.map (· - 1)) n ∧ Leads (Chained P n) ok before rest

theorem onward_of_eq {limit : Option Nat} {size : Nat} (h : rest.length = size) :
    Onward P limit ok size before rest ↔ ok before rest := by
  rw [Onward, if_pos h]

theorem onward_of_ne {limit : Option Nat} {size : Nat} (h : rest.length ≠ size) :
    Onward P limit ok size before rest ↔
      ∃ n, Within (limit.map (· - 1)) n ∧ Leads (Chained P n) ok before rest := by
  rw [Onward, if_neg h]

theorem exists_leads_chained {limit : Option Nat} (opened : limit ≠ some 0) :
    (∃ n, Within limit n ∧ Leads (Chained P n) ok before rest) ↔
      Leads P (Onward P limit ok rest.length) before rest ∨ ok before rest := by
  constructor
  · rintro ⟨n, within, text, later, rfl, chained, accepted⟩
    obtain rfl | ⟨first, others, m, nonempty, fewer, rfl, taken, chain⟩ := chained.skip
    · exact .inr (by simpa using accepted)
    · have positive := List.length_pos_iff.mpr nonempty
      refine .inl ⟨first, others ++ later, by simp, taken,
        (onward_of_ne (by simp only [List.length_append]; omega)).mpr ?_⟩
      rw [← List.append_assoc] at accepted
      exact ⟨m, (within_pred opened).mpr fun most limited => Nat.le_trans fewer (within most limited),
        others, later, rfl, chain, accepted⟩
  · rintro (⟨text, later, rfl, taken, onward⟩ | accepted)
    · by_cases same : later.length = (text ++ later).length
      · have empty : text = [] := by
          rw [List.length_append] at same
          exact List.length_eq_zero_iff.mp (by omega)
        subst empty
        have accepted := (onward_of_eq same).mp onward
        exact ⟨0, fun _ _ => Nat.zero_le _, leads_chained_zero.mpr (by simpa using accepted)⟩
      · obtain ⟨n, within, leads⟩ := (onward_of_ne same).mp onward
        exact ⟨n + 1, (within_pred opened).mp within,
          leads_chained_succ.mpr ⟨text, later, rfl, taken, leads⟩⟩
    · exact ⟨0, fun _ _ => Nat.zero_le _, leads_chained_zero.mpr accepted⟩

theorem further_adequate (h : Adequate attempt P) (preference : Preference) {fuel : Nat}
    {limit : Option Nat} (blind : Blind before rest follow ok) (enough : rest.length < fuel) :
    (further attempt preference fuel limit ⟨.between before rest, captures⟩ follow).isSome = true ↔
      ∃ n, Within limit n ∧ Leads (Chained P n) ok before rest := by
  -- The fuel exceeds what is left, and an iteration that is followed by another one has taken something.
  induction fuel generalizing limit before rest captures with
  | zero => omega
  | succ fuel ih =>
      rw [further]
      split
      · rename_i closed
        rw [blind.here]
        constructor
        · intro accepted
          exact ⟨0, fun _ _ => Nat.zero_le _, leads_chained_zero.mpr accepted⟩
        · rintro ⟨n, within, leads⟩
          cases Nat.le_zero.mp (within 0 closed)
          exact leads_chained_zero.mp leads
      · rename_i opened
        have next : Blind before rest (fun later =>
            if later.cursor.left = (Cursor.between before rest).left then follow later
            else further attempt preference fuel (limit.map (· - 1)) later follow)
            (Onward P limit ok rest.length) := by
          rintro text later captures rfl
          dsimp only
          by_cases same : (Cursor.between (before ++ text) later).left =
              (Cursor.between before (text ++ later)).left
          · rw [if_pos same]
            exact (blind text later captures rfl).trans (onward_of_eq same).symm
          · rw [if_neg same]
            refine (ih blind.after ?_).trans (onward_of_ne same).symm
            simp only [Cursor.between_left, List.length_append] at same enough
            omega
        have tried := @h before rest captures _ _ next
        rw [exists_leads_chained opened, ← tried, ← blind.here captures]
        cases preference with
        | most => exact isSome_orElse _ _
        | fewest =>
            rw [or_comm]
            exact isSome_orElse _ _

theorem leads_chained_add {m n : Nat} :
    Leads (Chained P (m + n)) ok before rest ↔
      Leads (Chained P m) (Leads (Chained P n) ok) before rest := by
  induction m generalizing before rest with
  | zero => rw [leads_chained_zero, Nat.zero_add]
  | succ m ih =>
      have step : Leads (Chained P (m + n)) ok = Leads (Chained P m) (Leads (Chained P n) ok) := by
        funext before rest
        exact propext ih
      rw [Nat.succ_add, leads_chained_succ, leads_chained_succ, step]

/-- The least number of repetitions, and then further ones as far as the bounds let them. -/
theorem leads_repeated {bounds : Bounds} :
    Leads (fun before text rest => ∃ n, bounds.Allows n ∧ Chained P n before text rest) ok before rest ↔
      Leads (Chained P bounds.min) (fun before rest => ∃ n, Within (bounds.max.map (· - bounds.min)) n ∧
        Leads (Chained P n) ok before rest) before rest := by
  have allows (n : Nat) :
      bounds.Allows (bounds.min + n) ↔ Within (bounds.max.map (· - bounds.min)) n := by
    obtain ⟨min, max⟩ := bounds
    cases max with
    | none => simp [Bounds.Allows, Within]
    | some most =>
        simp only [Bounds.Allows, Within, Option.map_some, Option.some.injEq, forall_eq']
        omega
  constructor
  · rintro ⟨text, later, rfl, ⟨n, allowed, chained⟩, accepted⟩
    obtain ⟨more, rfl⟩ := Nat.exists_eq_add_of_le allowed.1
    obtain ⟨one, rest, split, first, second⟩ :=
      leads_chained_add.mp ⟨text, later, rfl, chained, accepted⟩
    exact ⟨one, rest, split, first, more, (allows more).mp allowed, second⟩
  · rintro ⟨one, rest, rfl, first, more, within, second⟩
    obtain ⟨text, later, split, chained, accepted⟩ :=
      leads_chained_add.mpr ⟨one, rest, rfl, first, second⟩
    exact ⟨text, later, split, ⟨_, (allows more).mpr within, chained⟩, accepted⟩

/-- A look-around looks whether its body can match, and goes on from where it stands. -/
theorem look_isSome (found : Option State) (negated : Bool)
    (blind : Blind before rest follow ok) :
    (match found, negated with
      | some seen, false => follow { seen with cursor := .between before rest }
      | none, true => follow ⟨.between before rest, captures⟩
      | _, _ => none).isSome = true ↔
      (found.isSome = true ↔ negated = false) ∧ ok before rest := by
  cases found <;> cases negated <;> simp [blind.here]

theorem Adequate.isSome (h : Adequate attempt P) :
    (attempt ⟨.between before rest, captures⟩ some).isSome = true ↔
      ∃ text later, rest = text ++ later ∧ P before text later := by
  have anywhere : Blind before rest some fun _ _ => True := fun _ _ _ _ => by simp
  rw [h anywhere]
  simp only [Leads, and_true]

theorem Adequate.behind (h : Adequate attempt P) {width : Nat} :
    (match (Cursor.between before rest).back? width with
      | some origin => attempt ⟨origin, captures⟩ some
      | none => none).isSome = true ↔
      ∃ early late seen after, before = early ++ late ∧ late.length = width ∧
        late ++ rest = seen ++ after ∧ P early seen after := by
  by_cases far : width ≤ before.length
  · obtain ⟨early, late, rfl, rfl⟩ : ∃ early late, before = early ++ late ∧ late.length = width :=
      ⟨before.take (before.length - width), before.drop (before.length - width), by simp,
        by simp only [List.length_drop]; omega⟩
    rw [Cursor.back?_between rfl]
    refine h.isSome.trans ?_
    constructor
    · rintro ⟨seen, after, split, taken⟩
      exact ⟨early, late, seen, after, rfl, rfl, split, taken⟩
    · rintro ⟨early', late', seen, after, same, size, split, taken⟩
      obtain ⟨rfl, rfl⟩ := List.append_inj' same size.symm
      exact ⟨seen, after, split, taken⟩
  · rw [Cursor.back?_eq_none (by omega)]
    constructor
    · intro h
      cases h
    · rintro ⟨early, late, seen, after, rfl, rfl, -⟩
      simp at far

/-- Each constructor is tried adequately if its parts are; group references have no parts to go by. -/
theorem run_adequate {pattern : Pattern} (free : pattern.referenceFree = true) :
    Adequate pattern.run pattern.Takes := by
  induction pattern with
  | empty =>
      intro before rest captures follow ok blind
      exact (blind.here captures).trans (leads_nothing fun _ _ _ => Iff.rfl).symm
  | char test => exact char_adequate test
  | span test bounds preference => exact span_adequate test bounds preference
  | seq first second ih ih' =>
      rw [referenceFree, Bool.and_eq_true] at free
      intro before rest captures follow ok blind
      rw [run]
      exact (ih free.1 ((ih' free.2).blind blind)).trans (leads_append fun _ _ _ => Iff.rfl).symm
  | alt first second ih ih' =>
      rw [referenceFree, Bool.and_eq_true] at free
      intro before rest captures follow ok blind
      rw [run, isSome_orElse, ih free.1 blind, ih' free.2 blind]
      simp only [Leads, Takes, or_and_right, and_or_left, exists_or]
  | iterate body bounds preference ih =>
      intro before rest captures follow ok blind
      have body_adequate := ih free
      have next : Blind before rest (fun later =>
          further (fun later next => body.run later next) preference (later.cursor.left + 1)
            (bounds.max.map (· - bounds.min)) later follow)
          (fun before rest => ∃ n, Within (bounds.max.map (· - bounds.min)) n ∧
            Leads (Chained body.Takes n) ok before rest) := by
        rintro text later captures rfl
        exact further_adequate body_adequate preference blind.after (Nat.lt_succ_self _)
      rw [run]
      exact (times_adequate body_adequate bounds.min next).trans leads_repeated.symm
  | group index body ih =>
      intro before rest captures follow ok blind
      rw [run]
      refine ih free ?_
      intro text later captures split
      exact blind text later _ split
  | again index | atomic body | conditional index yes no => cases free
  | anchor condition =>
      intro before rest captures follow ok blind
      refine Iff.trans ?_ (leads_condition fun _ _ _ => Iff.rfl).symm
      rw [run, ← blind.here captures]
      split <;> simp_all [Cursor.between]
  | look direction negated body ih =>
      intro before rest captures follow ok blind
      cases direction with
      | ahead =>
          refine Iff.trans ?_ (leads_condition fun _ _ _ => Iff.rfl).symm
          refine (look_isSome _ negated blind).trans ?_
          exact and_congr (iff_congr (ih free).isSome Iff.rfl) Iff.rfl
      | behind width =>
          refine Iff.trans ?_ (leads_condition fun _ _ _ => Iff.rfl).symm
          refine (look_isSome _ negated blind).trans ?_
          exact and_congr (iff_congr (ih free).behind Iff.rfl) Iff.rfl

theorem matchesAt_between {pattern : Pattern} (free : pattern.referenceFree = true) :
    pattern.matchesAt (.between before rest) = true ↔ pattern.Starts before rest :=
  (run_adequate free).isSome

theorem matchesFrom_between {pattern : Pattern} (free : pattern.referenceFree = true) :
    pattern.matchesFrom rest.length (.between before rest) = true ↔
      ∃ passed later, rest = passed ++ later ∧ pattern.Starts (before ++ passed) later := by
  induction rest generalizing before with
  | nil =>
      refine (matchesAt_between free).trans ?_
      constructor
      · intro starts
        exact ⟨[], [], rfl, by rwa [List.append_nil]⟩
      · rintro ⟨passed, later, split, starts⟩
        obtain ⟨rfl, rfl⟩ := List.append_eq_nil_iff.mp split.symm
        rwa [List.append_nil] at starts
  | cons c rest ih =>
      rw [List.length_cons, matchesFrom, Bool.or_eq_true, matchesAt_between free]
      simp only [Cursor.next?_between_cons]
      rw [ih]
      constructor
      · rintro (starts | ⟨passed, later, rfl, starts⟩)
        · exact ⟨[], c :: rest, rfl, by rwa [List.append_nil]⟩
        · exact ⟨c :: passed, later, rfl, by simpa using starts⟩
      · rintro ⟨passed, later, split, starts⟩
        cases passed with
        | nil =>
            cases split
            rw [List.append_nil] at starts
            exact .inl starts
        | cons first passed =>
            cases split
            exact .inr ⟨passed, later, rfl, by simpa using starts⟩

/-- Searching finds a place exactly when there is one. -/
theorem search_iff {pattern : Pattern} (free : pattern.referenceFree = true) {line : List Char} :
    pattern.search line = true ↔ ∃ before rest, line = before ++ rest ∧ pattern.Starts before rest :=
  @matchesFrom_between [] line pattern free

end ContractScan.Pattern
