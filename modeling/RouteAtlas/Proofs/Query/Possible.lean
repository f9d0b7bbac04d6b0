import Mathlib.Data.List.Forall2
import RouteAtlas.Proofs.Grammar.Preparing
import RouteAtlas.Proofs.Query.Hidden

/-!
# Patterns that some tree can have

A pattern is refused only if no production has what it asks for (`misplaced_eq_none`). The search
for how many of the wanted nodes are met is greedy, and what hidden symbols offer is found in
rounds, each of which looks one level deeper (`settle_leads`).
-/

namespace RouteAtlas.Query.Blueprint

open Grammar

variable {b : Blueprint} {wanted : Array Shape} {w : Shape} {hidden : List Entry}
  {outer : Option String} {s : Step} {reach : Reach} {k j n : Nat}

/-- Whether a step provides a wanted node, itself or below so many levels of hidden symbols. -/
inductive Provides (b : Blueprint) (w : Shape) : Nat → Option String → Step → Prop
  | shown {k : Nat} {outer : Option String} {s : Step} {kind : String} {isNamed : Bool}
    (appears : b.shownAs s = some (kind, isNamed))
    (fits : couldBe kind isNamed (s.field.or outer) w) : Provides b w k outer s
  | hidden {k : Nat} {outer : Option String} {s t : Step} {p : Production}
    (hides : b.shownAs s = none) (inProductions : p ∈ b.productions.getD s.symbol #[])
    (inSteps : t ∈ p.steps) (provides : Provides b w k (s.field.or outer) t) :
    Provides b w (k + 1) outer s

/-- Whether a hidden symbol provides a wanted node. -/
def Offers (b : Blueprint) (w : Shape) (k : Nat) (e : Entry) : Prop :=
  ∃ p ∈ b.productions.getD e.1 #[], ∃ t ∈ p.steps, b.Provides w k e.2 t

/-- Whether a reach is known to lead past what hidden symbols offer within fewer levels. -/
structure Leads (b : Blueprint) (wanted : Array Shape) (hidden : List Entry) (k : Nat)
    (reach : Reach) : Prop where
  le : ∀ start : Entry × Nat, start.2 ≤ reach.getD start start.2
  lt : ∀ e ∈ hidden, ∀ n w, wanted[n]? = some w → ∀ j < k, b.Offers w j e → n < reach.getD (e, n) n

section Meeting

lemma le_passAnywhere (fuel n : Nat) : n ≤ b.passAnywhere wanted fuel n := by
  induction fuel generalizing n with
  | zero => exact Nat.le_refl n
  | succ fuel ih =>
    rw [passAnywhere]
    split
    · exact (Nat.le_succ n).trans (ih (n + 1))
    · exact Nat.le_refl n

/-- A step never leads back. -/
lemma Leads.le_meetStep (leads : b.Leads wanted hidden k reach) (outer : Option String) (n : Nat)
    (s : Step) : n ≤ b.meetStep wanted reach outer n s := by
  refine Nat.le_trans ?_ (le_passAnywhere _ _)
  split
  · split
    · exact Nat.le_succ n
    · exact Nat.le_refl n
  · exact leads.le ((s.symbol, s.field.or outer), n)

/-- A step that provides the wanted node leads past it. -/
lemma Leads.lt_meetStep (leads : b.Leads wanted hidden k reach) (next : wanted[n]? = some w)
    (provides : b.Provides w j outer s) (levels : j ≤ k)
    (known : b.IsHidden s → (s.symbol, s.field.or outer) ∈ hidden) :
    n < b.meetStep wanted reach outer n s := by
  refine Nat.lt_of_lt_of_le ?_ (le_passAnywhere _ _)
  cases provides with
  | shown appears fits => simp [appears, next, fits]
  | hidden hides inProductions inSteps provides =>
    simp only [hides]
    exact leads.lt _ (known ⟨hides, Array.ne_empty_of_mem inProductions⟩) n w next _ levels
      ⟨_, inProductions, _, inSteps, provides⟩

lemma Leads.le_foldl (leads : b.Leads wanted hidden k reach) (outer : Option String)
    (steps : List Step) (n : Nat) : n ≤ steps.foldl (b.meetStep wanted reach outer) n :=
  List.foldlRecOn (motive := (n ≤ ·)) steps _ (Nat.le_refl n) fun _ known s _ =>
    known.trans (leads.le_meetStep outer _ s)

/-- A production with a step that provides the wanted node leads past it. -/
lemma Leads.lt_meet (leads : b.Leads wanted hidden k reach) (next : wanted[n]? = some w)
    {p : Production} (inSteps : s ∈ p.steps) (provides : b.Provides w j outer s) (levels : j ≤ k)
    (known : b.IsHidden s → (s.symbol, s.field.or outer) ∈ hidden) :
    n < b.meet wanted reach outer n p := by
  obtain ⟨before, behind, split⟩ := List.append_of_mem (Array.mem_toList_iff.2 inSteps)
  rw [meet, ← Array.foldl_toList, split, List.foldl_append, List.foldl_cons]
  refine Nat.lt_of_lt_of_le ?_ (leads.le_foldl outer behind _)
  rcases Nat.eq_or_lt_of_le (leads.le_foldl outer before n) with same | past
  · rw [← same]
    exact leads.lt_meetStep next provides levels known
  · exact past.trans_le (leads.le_meetStep outer _ s)

/-- Of several wanted nodes all are met that the steps of a production provide in their order. -/
lemma Leads.size_le_foldl (leads : b.Leads wanted hidden k reach) (levels : j ≤ k)
    {provided steps : List Step} (sub : provided.Sublist steps)
    (known : ∀ s ∈ steps, b.IsHidden s → (s.symbol, s.field.or outer) ∈ hidden) {i : Nat}
    (provides : List.Forall₂ (fun s w => b.Provides w j outer s) provided (wanted.toList.drop i))
    (met : i ≤ n) : wanted.size ≤ steps.foldl (b.meetStep wanted reach outer) n := by
  induction sub generalizing i n with
  | slnil =>
    have atEnd := (List.forall₂_nil_left_iff.1 provides)
    rw [List.drop_eq_nil_iff, Array.length_toList] at atEnd
    exact atEnd.trans met
  | cons s sub ih =>
    rw [List.forall_mem_cons] at known
    exact ih known.2 provides (met.trans (leads.le_meetStep outer n s))
  | cons_cons s sub ih =>
    rw [List.forall_mem_cons] at known
    obtain ⟨w, rest, provides', others, wants⟩ := List.forall₂_cons_left_iff.1 provides
    have next : wanted[i]? = some w := by
      rw [← Array.getElem?_toList, ← List.head?_drop, wants, List.head?_cons]
    have rest' : rest = wanted.toList.drop (i + 1) := by
      rw [← List.tail_drop, wants, List.tail_cons]
    refine ih known.2 (rest' ▸ others) ?_
    -- The next wanted node has been met before, or this step provides it.
    rcases Nat.eq_or_lt_of_le met with rfl | past
    · exact leads.lt_meetStep next provides' levels known.1
    · exact Nat.lt_of_lt_of_le past (leads.le_meetStep outer n s)

end Meeting

/-! ## Rounds -/

section Rounds

/-- Whether everything below some hidden symbols is among them. -/
def IsClosed (b : Blueprint) (hidden : List Entry) : Prop := ∀ e ∈ hidden, b.IsClosedAt hidden e

/-- The largest of several numbers is not smaller than one of them. -/
lemma le_foldl_max {α : Type} (f : α → Nat) (xs : Array α) (n : Nat) :
    n ≤ xs.foldl (fun most x => max most (f x)) n ∧
      ∀ x ∈ xs, f x ≤ xs.foldl (fun most x => max most (f x)) n := by
  rw [← Array.foldl_toList]
  constructor
  · exact List.foldlRecOn (motive := (n ≤ ·)) _ _ (Nat.le_refl n) fun _ known _ _ =>
      known.trans (Nat.le_max_left _ _)
  · intro x mem
    exact foldl_of_mem (I := fun _ => True) (P := (f x ≤ ·)) (Array.mem_toList_iff.2 mem) trivial
      (fun _ _ => id) (fun _ _ => Nat.le_max_right _ _) fun _ _ known =>
        known.trans (Nat.le_max_left _ _)

lemma getD_growAt_of_ne {start key : Entry × Nat} (other : start ≠ key) (d : Nat) :
    (b.growAt wanted reach start).getD key d = reach.getD key d := by
  rw [growAt, Std.HashMap.getD_insert, if_neg (by simpa using other)]

variable (closed : b.IsClosed hidden)
include closed

/-- Where a hidden symbol offers the wanted node, it is found to lead past it. -/
lemma Leads.lt_growAt (leads : b.Leads wanted hidden k reach) {e : Entry} (mem : e ∈ hidden)
    (next : wanted[n]? = some w) (offers : b.Offers w j e) (levels : j ≤ k) :
    n < (b.growAt wanted reach (e, n)).getD (e, n) n := by
  obtain ⟨p, inProductions, t, inSteps, provides⟩ := offers
  have past : n < b.meet wanted reach e.2 n p := leads.lt_meet next inSteps provides levels
    fun hides => closed e mem _ ⟨p, inProductions, t, inSteps, hides, rfl⟩
  rw [Blueprint.growAt, Std.HashMap.getD_insert_self]
  exact past.trans_le ((le_foldl_max _ _ n).2 p inProductions)

/-- What is known stays known. -/
lemma Leads.growAt (leads : b.Leads wanted hidden k reach) (start : Entry × Nat) :
    b.Leads wanted hidden k (b.growAt wanted reach start) where
  le start' := by
    rw [Blueprint.growAt, Std.HashMap.getD_insert]
    split
    · rename_i same
      rw [← beq_iff_eq.1 same]
      exact (le_foldl_max _ _ start.2).1
    · exact leads.le start'
  lt e mem n w next j less offers := by
    by_cases same : start = (e, n)
    · subst same
      exact leads.lt_growAt closed mem next offers less.le
    · rw [getD_growAt_of_ne same]
      exact leads.lt e mem n w next j less offers

/-- A round looks one level deeper. -/
lemma Leads.growReach (leads : b.Leads wanted hidden k reach) {starts : List (Entry × Nat)}
    (all : ∀ e ∈ hidden, ∀ n < wanted.size, (e, n) ∈ starts) :
    b.Leads wanted hidden (k + 1) (b.growReach wanted starts reach) where
  le := (List.foldlRecOn (motive := b.Leads wanted hidden k) starts _ leads
    fun _ known start _ => known.growAt closed start).le
  lt e mem n w next j less offers := by
    have bound : n < wanted.size := (Array.getElem?_eq_some_iff.1 next).1
    have levels : j ≤ k := Nat.le_of_lt_succ less
    refine (foldl_of_mem (f := b.growAt wanted) (I := b.Leads wanted hidden k)
      (P := fun acc => b.Leads wanted hidden k acc ∧ n < acc.getD (e, n) n) (all e mem n bound)
      leads (fun acc start known => known.growAt closed start)
      (fun acc known => ⟨known.growAt closed _, known.lt_growAt closed mem next offers levels⟩)
      fun acc start known => ⟨known.1.growAt closed start, ?_⟩).2
    by_cases same : start = (e, n)
    · subst same
      exact known.1.lt_growAt closed mem next offers levels
    · rw [getD_growAt_of_ne same]
      exact known.2

/-- Rounds look deeper until nothing changes, and then all levels are known. -/
theorem Leads.settle (leads : b.Leads wanted hidden k reach) {starts : List (Entry × Nat)}
    (all : ∀ e ∈ hidden, ∀ n < wanted.size, (e, n) ∈ starts) (rounds : Nat) :
    b.Leads wanted hidden (k + rounds) (b.settle wanted starts rounds reach) := by
  induction rounds generalizing reach k with
  | zero => exact leads
  | succ rounds ih =>
    rw [Blueprint.settle]
    split
    · rename_i settled
      simp only [List.all_eq_true, decide_eq_true_eq] at settled
      -- The round has found nothing new, so it can be taken to be one at any level.
      have all_levels (level : Nat) : b.Leads wanted hidden level reach := by
        induction level with
        | zero => exact ⟨leads.le, fun _ _ _ _ _ j less => absurd less (Nat.not_lt_zero j)⟩
        | succ level ih =>
          refine ⟨leads.le, fun e mem n w next j less offers => ?_⟩
          have bound : n < wanted.size := (Array.getElem?_eq_some_iff.1 next).1
          rw [← settled (e, n) (all e mem n bound)]
          exact (ih.growReach closed all).lt e mem n w next j less offers
      exact (all_levels (k + rounds)).growReach closed all
    · rw [Nat.add_comm rounds 1, ← Nat.add_assoc]
      exact ih (leads.growReach closed all)

end Rounds

/-! ## Possible patterns -/

section Kinds
variable {kind : String}

/-- Everything below the hidden symbols of a kind is among them. -/
lemma isClosed_hiddenOf : b.IsClosed (b.hiddenOf kind) :=
  fun _ mem _ isBelow => mem_hiddenOf isBelow (.inl mem)

/-- What is found out of the hidden symbols of a kind. -/
lemma leads_reachOf (levels : k ≤ wanted.size + 1) :
    b.Leads wanted (b.hiddenOf kind) k (b.reachOf kind wanted) := by
  let starts := (b.hiddenOf kind).flatMap fun e =>
    (List.range (wanted.size + 1)).map fun n => (e, n)
  have all : ∀ e ∈ b.hiddenOf kind, ∀ n < wanted.size, (e, n) ∈ starts := fun e mem n bound =>
    List.mem_flatMap.2 ⟨e, mem, List.mem_map.2 ⟨n, List.mem_range.2 (by omega), rfl⟩⟩
  have nothing : b.Leads wanted (b.hiddenOf kind) 0 ∅ := ⟨by simp, by simp⟩
  have leads := nothing.settle isClosed_hiddenOf all starts.length
  refine ⟨leads.le, fun e mem n w next j less offers => leads.lt e mem n w next j ?_ offers⟩
  -- There are as many rounds as starts, and each hidden symbol has more of them than are wanted.
  have many : wanted.size + 1 ≤ starts.length := by
    obtain ⟨before, behind, split⟩ := List.append_of_mem mem
    simp only [starts, split, List.flatMap_append, List.flatMap_cons, List.length_append,
      List.length_map, List.length_range]
    omega
  omega

/-- The wanted nodes are all met if some production of the kind has steps that provide them, each
below not too many levels of hidden symbols. -/
theorem size_le_mostMet {symbol : Nat} (form : symbol ∈ b.forms.getD kind []) {p : Production}
    (inProductions : p ∈ b.productions.getD symbol #[]) {steps : List Step}
    (sub : steps.Sublist p.steps.toList) (levels : k ≤ wanted.size + 1)
    (provides : List.Forall₂ (fun s w => b.Provides w k none s) steps wanted.toList) :
    wanted.size ≤ b.mostMet kind wanted := by
  have isSymbol : symbol ∈ b.symbolsOf kind :=
    List.mem_filter.2 ⟨form, by simpa using Array.ne_empty_of_mem inProductions⟩
  have met : wanted.size ≤ b.meet wanted (b.reachOf kind wanted) none
      (b.passAnywhere wanted wanted.size 0) p := by
    rw [meet, ← Array.foldl_toList]
    refine (leads_reachOf levels).size_le_foldl (Nat.le_refl k) sub (fun s mem hides => ?_)
      (i := 0) (by simpa using provides) (Nat.zero_le _)
    have isBelow : b.IsBelow (symbol, none) (s.symbol, s.field.or none) :=
      ⟨p, inProductions, s, Array.mem_toList_iff.1 mem, hides, rfl⟩
    exact mem_hiddenOf isBelow (.inr ⟨isSymbol, rfl⟩)
  refine foldl_of_mem (I := fun _ => True) (P := (wanted.size ≤ ·)) isSymbol trivial
    (fun _ _ => id) (fun most _ => ?_) fun most s known => known.trans (le_foldl_max _ _ most).1
  exact met.trans ((le_foldl_max _ _ most).2 p inProductions)

/-- A pattern whose nodes are all met is not refused. -/
theorem misplaced_eq_none {below : List Pattern} {shapes : List Shape}
    (nodes : shapesOf below = some shapes) {symbol : Nat}
    (form : symbol ∈ b.forms.getD kind []) {p : Production}
    (inProductions : p ∈ b.productions.getD symbol #[]) {steps : List Step}
    (sub : steps.Sublist p.steps.toList) (levels : k ≤ shapes.length + 1)
    (provides : List.Forall₂ (fun s w => b.Provides w k none s) steps shapes) :
    b.misplaced kind below = none := by
  have met : shapes.toArray.size ≤ b.mostMet kind shapes.toArray :=
    size_le_mostMet form inProductions sub (by simpa using levels) (by simpa using provides)
  rw [misplaced, nodes]
  exact congrArg (Option.map Shape.place) (List.getElem?_eq_none (by simpa using met))

end Kinds

end RouteAtlas.Query.Blueprint
