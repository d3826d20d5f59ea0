import PropertyTesting.Proofs.Assembly.Order

/-!
# The connectives of a group

A group should join its operands by connectives of its own, since those that wait when it is opened
are for what stands around it. But the assembly compares the numbers of operands and connectives
only as wholes, and the connectives of a group only by their number when it closes. So a group can
take a connective from before it and leave one of its own in its place (`Exposed.takes`).

For that it must stand where nothing is before it that it could be joined with, but one connective
more than operands waits. Everywhere else a group that is closed has kept to its own
(`selfContained`). The reason lies in the last connective from before the group: if it is taken,
there are then as many operands as connectives were waiting when the group was opened. If a group
inside joins on closing, it was opened with more connectives than operands and cannot be closed
(`ready_of_run`); and if none does, there is one operand only besides those before the group
(`le_of_apart`).
-/

namespace PropertyTesting

open ChainCall

variable {I O : Type}

namespace Assembly

/-- Each group holds one operand at most, besides those of the groups in it. So it was when they
were opened. -/
def Leveled (operands : Nat) : List OpenGroup → Prop
  | [] => True
  | frame :: outer => operands ≤ frame.operandsBefore + 1 ∧ Leveled frame.operandsBefore outer

/-- What holds of the open groups as long as all calls succeed. -/
structure Upright (a : Assembly I O) : Prop where
  framed : Framed a.operands.length a.pushNext a.groups
  marked : Marked a.operands.length a.operators.length a.pushNext a.groups
  leveled : Leveled a.operands.length a.groups

/-- A group that does not join on closing was opened where an operand is kept apart, or where there
was none. -/
theorem Framed.of_apart {operands : Nat} {pushNext : Bool} {frame : OpenGroup}
    {outer : List OpenGroup} (framed : Framed operands pushNext (frame :: outer))
    (apart : frame.joinsOnClose = false) :
    frame.pushNextBefore = true ∨ frame.operandsBefore = 0 := by
  have recorded := framed.2.2.1
  rw [apart, eq_comm, Bool.and_eq_false_iff] at recorded
  simpa using recorded

/-- Where the next operand is kept apart, or there is none, the innermost group has no operand. -/
theorem Marked.le_of_free {operands operators : Nat} {pushNext : Bool} {frame : OpenGroup}
    {outer : List OpenGroup} (marked : Marked operands operators pushNext (frame :: outer))
    (free : pushNext = true ∨ operands = 0) : operands ≤ frame.operandsBefore := by
  rcases free with mark | rfl
  · exact Nat.le_of_eq (marked.1 mark).1
  · exact Nat.zero_le _

/-- Groups that do not join on closing and were opened one in the other have the same operands
before them. -/
theorem le_of_free {operands operators : Nat} {pushNext : Bool} {inner outer : List OpenGroup}
    {frame : OpenGroup} (framed : Framed operands pushNext (inner ++ frame :: outer))
    (marked : Marked operands operators pushNext (inner ++ frame :: outer))
    (free : pushNext = true ∨ operands = 0) (apart : ∀ f ∈ inner, f.joinsOnClose = false) :
    operands ≤ frame.operandsBefore := by
  induction inner generalizing operands operators pushNext with
  | nil => exact marked.le_of_free free
  | cons f inner ih =>
    rw [List.forall_mem_cons] at apart
    exact Nat.le_trans (marked.le_of_free free)
      (ih framed.2.2.2 marked.2 (framed.of_apart apart.1) apart.2)

/-- If no group inside a group joins on closing, there is one operand at most besides those before
the group. -/
theorem le_of_apart {operands operators : Nat} {pushNext : Bool} {inner outer : List OpenGroup}
    {frame : OpenGroup} (framed : Framed operands pushNext (inner ++ frame :: outer))
    (marked : Marked operands operators pushNext (inner ++ frame :: outer))
    (leveled : Leveled operands (inner ++ frame :: outer))
    (apart : ∀ f ∈ inner, f.joinsOnClose = false) : operands ≤ frame.operandsBefore + 1 := by
  cases inner with
  | nil => exact leveled.1
  | cons f inner =>
    rw [List.forall_mem_cons] at apart
    have level := le_of_free framed.2.2.2 marked.2 (framed.of_apart apart.1) apart.2
    exact Nat.le_trans leveled.1 (Nat.succ_le_succ level)

theorem call_upright {a b : Assembly I O} {call : ChainCall I O} (done : a.call call = (.ok (), b))
    (upright : Upright a) : Upright b where
  framed := call_framed done upright.framed
  marked := call_marked done upright.framed upright.marked
  leveled := by
    obtain ⟨framed, marked, leveled⟩ := upright
    cases call_effect done with
    | @pushed operands operators groups pushNext comparison free =>
      cases groups with
      | nil => trivial
      | cons frame outer =>
        have unoccupied : pushNext = true ∨ operands.length = 0 :=
          free.imp_right List.length_eq_zero_iff.mpr
        exact ⟨Nat.succ_le_succ (marked.le_of_free unoccupied), leveled.2⟩
    | joined level => exact leveled
    | connected => exact leveled
    | opened => exact ⟨Nat.le_succ _, leveled⟩
    | closedEmpty empty level =>
      rw [Nat.le_antisymm empty framed.1]
      exact leveled.2
    | @closedApart operands operators frame groups pushNext single level apart =>
      cases groups with
      | nil => trivial
      | cons outer groups =>
        have level := marked.2.le_of_free (framed.of_apart apart)
        exact ⟨single ▸ Nat.succ_le_succ level, leveled.2.2⟩
    | @closedJoined node left operands op operators frame groups pushNext height level joins even =>
      rw [List.length_cons, height]
      exact leveled.2

theorem upright_empty : Upright (empty : Assembly I O) :=
  ⟨trivial, rfl, trivial⟩

theorem run_upright {a b : Assembly I O} {calls : List (ChainCall I O)} (ran : a.run calls = .ok b)
    (upright : Upright a) : Upright b :=
  run_history (P := fun _ a => Upright a) call_upright [] ran upright

/-- A call takes the last connective, where one operand is left for each of them, or it takes
none. -/
theorem call_operators {a b : Assembly I O} {call : ChainCall I O}
    {result : Except BuilderError Unit} (done : a.call call = (result, b)) :
    a.operators <:+ b.operators ∨
      (∃ op, a.operators = op :: b.operators) ∧ b.operators.length + 1 = b.operands.length ∧
        b.pushNext = false := by
  cases call_effect done with
  | joined level => exact .inr ⟨⟨_, rfl⟩, by simp [level], rfl⟩
  | closedJoined height level joins even => exact .inr ⟨⟨_, rfl⟩, by simp [even], rfl⟩
  | connected => exact .inl (List.suffix_cons _ _)
  | _ => exact .inl List.suffix_rfl

/-- Where a call closes a group but none of the groups `outer`, it is the first of the others. -/
theorem groups_of_close {frame : OpenGroup} {groups inner outer : List OpenGroup}
    (before : frame :: groups = inner ++ outer) {rest : List (ChainCall I O)} {depth : Nat}
    (stays : nesting? inner.length (.closeGroup :: rest) = some depth) :
    ∃ inner', groups = inner' ++ outer ∧ nesting? inner'.length rest = some depth ∧
      inner' ⊆ inner := by
  cases inner with
  | nil => cases stays
  | cons first inner =>
    exact ⟨inner, (List.cons.inj before).2, stays, List.subset_cons_self first inner⟩

/-- A call that closes none of the groups `outer` leaves them open, and a group that it opens
remembers the connectives. -/
theorem call_groups {a b : Assembly I O} {call : ChainCall I O} {rest : List (ChainCall I O)}
    (done : a.call call = (.ok (), b)) {inner outer : List OpenGroup}
    (groups : a.groups = inner ++ outer) {depth : Nat}
    (stays : nesting? inner.length (call :: rest) = some depth) :
    ∃ inner', b.groups = inner' ++ outer ∧ nesting? inner'.length rest = some depth ∧
      ∀ frame ∈ inner', frame ∈ inner ∨ frame.operatorsBefore = a.operators.length := by
  cases call_effect done with
  | pushed free => exact ⟨inner, groups, stays, fun _ => .inl⟩
  | joined level => exact ⟨inner, groups, stays, fun _ => .inl⟩
  | connected => exact ⟨inner, groups, stays, fun _ => .inl⟩
  | opened =>
    refine ⟨_ :: inner, congrArg (_ :: ·) groups, stays, List.forall_mem_cons.mpr ⟨.inr rfl, ?_⟩⟩
    exact fun _ => .inl
  | closedEmpty empty level =>
    obtain ⟨inner', groups, stays, old⟩ := groups_of_close groups stays
    exact ⟨inner', groups, stays, fun _ member => .inl (old member)⟩
  | closedApart single level apart =>
    obtain ⟨inner', groups, stays, old⟩ := groups_of_close groups stays
    exact ⟨inner', groups, stays, fun _ member => .inl (old member)⟩
  | closedJoined height level joins even =>
    obtain ⟨inner', groups, stays, old⟩ := groups_of_close groups stays
    exact ⟨inner', groups, stays, fun _ member => .inl (old member)⟩

/-- Only ready groups can be closed by calls that all succeed. -/
theorem ready_of_run {a b : Assembly I O} {calls : List (ChainCall I O)} (ran : a.run calls = .ok b)
    (framed : Framed a.operands.length a.pushNext a.groups) {inner outer : List OpenGroup}
    (groups : a.groups = inner ++ outer) (closes : nesting? inner.length calls = some 0) :
    ∀ frame ∈ inner, Ready a.operands.length frame := by
  induction calls generalizing a inner with
  | nil =>
    obtain rfl := List.length_eq_zero_iff.mp (Option.some.inj closes)
    exact List.forall_mem_nil _
  | cons call rest ih =>
    obtain ⟨m, done, ran⟩ := run_cons_ok.mp ran
    obtain ⟨inner', groups', closes, -⟩ := call_groups done groups closes
    exact ready_of_call done framed groups groups' (ih ran (call_framed done framed) groups' closes)

/-! ## Groups that keep to their own connectives -/

/-- One connective more than operands waits, and a group that is opened here is not joined on
closing. -/
def Exposed (s : Assembly I O) : Prop :=
  s.operators.length = s.operands.length + 1 ∧ (s.pushNext = true ∨ s.operands = [])

/-- A connective that is added in `m` is still waiting after further calls: none of them takes
it. -/
def LeftOver (m : Assembly I O) (op : BooleanOp) (rest : List (ChainCall I O)) : Prop :=
  ∀ calls b, calls <+: rest → (m.operator op).run calls = .ok b →
    m.operators.length < b.operators.length

/-- What a group that is opened in `s` does with connectives in calls that all succeed. -/
structure SelfContained (s : Assembly I O) : Prop where
  /-- Until it is closed, it takes none from before it. -/
  keeps : ∀ (first rest : List (ChainCall I O)) (m t : Assembly I O), Balanced (first ++ rest) →
    s.openGroup.run first = .ok m → m.run (rest ++ [.closeGroup]) = .ok t →
      s.operators <:+ m.operators
  /-- It is not closed with one of its own left over. -/
  closes : ∀ (first rest : List (ChainCall I O)) (op : BooleanOp) (m t : Assembly I O),
    Balanced (first ++ .operator op :: rest) → s.openGroup.run first = .ok m →
    m.run (.operator op :: rest) = .ok t → m.LeftOver op rest →
    t.closeGroup.1 = .error .unbalancedOperator

/-- What is remembered of a state when a group is opened in it. -/
def frame (s : Assembly I O) : OpenGroup where
  operandsBefore := s.operands.length
  operatorsBefore := s.operators.length
  joinsOnClose := !s.pushNext && !s.operands.isEmpty
  pushNextBefore := s.pushNext

/-- The states in a group as long as it has taken no connective from before it, with the groups
inside it. -/
structure Inside (s a : Assembly I O) (inner : List OpenGroup) : Prop where
  upright : Upright a
  groups : a.groups = inner ++ [s.frame] ++ s.groups
  waiting : s.operators <:+ a.operators
  recorded : ∀ frame ∈ inner ++ [s.frame], s.operators.length ≤ frame.operatorsBefore

theorem inside_openGroup {s : Assembly I O} (upright : Upright s) : Inside s s.openGroup [] where
  upright := call_upright (show s.call .openGroup = (.ok (), s.openGroup) from rfl) upright
  groups := rfl
  waiting := List.suffix_rfl
  recorded := List.forall_mem_singleton.mpr (Nat.le_refl _)

/-- The last connective from before a group is not taken, unless the group is exposed. When it is
taken, there are as many operands as connectives were waiting then. So a group that was opened since
and joins on closing has more connectives before it than operands and is not closed; and if none
joins, the group is exposed. -/
theorem waiting_of_taken {s b : Assembly I O} {inner : List OpenGroup} (covered : ¬ s.Exposed)
    (upright : Upright b) (groups : b.groups = inner ++ [s.frame] ++ s.groups)
    (recorded : ∀ frame ∈ inner ++ [s.frame], s.operators.length ≤ frame.operatorsBefore)
    (ready : ∀ frame ∈ inner ++ [s.frame], Ready b.operands.length frame) {op : BooleanOp}
    (waiting : s.operators <:+ op :: b.operators)
    (even : b.operators.length + 1 = b.operands.length) (clear : b.pushNext = false) :
    s.operators <:+ b.operators := by
  rcases List.suffix_cons_iff.mp waiting with last | waiting
  · have height : s.operators.length = b.operands.length := by rw [last, List.length_cons, even]
    obtain ⟨framed, marked, leveled⟩ := upright
    rw [groups] at framed marked leveled
    have occupied : ∀ frame ∈ inner ++ [s.frame], frame.operandsBefore < b.operands.length := by
      rw [clear] at framed
      exact fun frame member => framed.outer_lt frame (List.mem_append_left _ member)
    have apart : ∀ frame ∈ inner ++ [s.frame], frame.joinsOnClose = false := by
      refine fun frame member => Bool.eq_false_iff.mpr fun joins => ?_
      have level := ready frame member joins (occupied frame member)
      have before := recorded frame member
      have below := occupied frame member
      omega
    rw [List.append_assoc] at framed marked leveled
    have single : b.operands.length ≤ s.operands.length + 1 :=
      le_of_apart framed marked leveled fun frame member =>
        apart frame (List.mem_append_left _ member)
    have below : s.operands.length < b.operands.length :=
      occupied s.frame (List.mem_append_right _ (List.mem_singleton_self _))
    have free : s.frame.joinsOnClose = false :=
      apart s.frame (List.mem_append_right _ (List.mem_singleton_self _))
    rw [frame, Bool.and_eq_false_iff] at free
    exact absurd ⟨by omega, by simpa using free⟩ covered
  · exact waiting

/-- A call in a group that is closed by calls that all succeed takes no connective from before the
group, unless the group is exposed. -/
theorem Inside.call {s a b t : Assembly I O} {inner : List OpenGroup} (inside : Inside s a inner)
    (covered : ¬ s.Exposed) {call : ChainCall I O} {first rest : List (ChainCall I O)} {depth : Nat}
    (done : a.call call = (.ok (), b)) (stays : nesting? inner.length (call :: first) = some depth)
    (ran : b.run (first ++ rest) = .ok t) (closes : nesting? (depth + 1) rest = some 0) :
    ∃ inner', Inside s b inner' ∧ nesting? inner'.length first = some depth := by
  obtain ⟨inner', groups, stays, new⟩ :=
    call_groups done (inside.groups.trans (List.append_assoc ..)) stays
  rw [← List.append_assoc] at groups
  have upright := call_upright done inside.upright
  have recorded : ∀ frame ∈ inner' ++ [s.frame], s.operators.length ≤ frame.operatorsBefore := by
    intro frame member
    rcases List.mem_append.mp member with member | self
    · rcases new frame member with old | before
      · exact inside.recorded frame (List.mem_append_left _ old)
      · exact before ▸ inside.waiting.length_le
    · exact inside.recorded frame (List.mem_append_right _ self)
  refine ⟨inner', ⟨upright, groups, ?_, recorded⟩, stays⟩
  rcases call_operators done with none | ⟨⟨op, taken⟩, even, clear⟩
  · exact inside.waiting.trans none
  · have closesAll : nesting? (inner' ++ [s.frame]).length (first ++ rest) = some 0 := by
      rw [nesting?_append, List.length_append, List.length_singleton, nesting?_succ stays]
      exact closes
    have ready := ready_of_run ran upright.framed groups closesAll
    have waiting := inside.waiting
    rw [taken] at waiting
    exact waiting_of_taken covered upright groups recorded ready waiting even clear

theorem Inside.run {s a m t : Assembly I O} {inner : List OpenGroup} (inside : Inside s a inner)
    (covered : ¬ s.Exposed) {first rest : List (ChainCall I O)} {depth : Nat}
    (ranFirst : a.run first = .ok m) (stays : nesting? inner.length first = some depth)
    (ranRest : m.run rest = .ok t) (closes : nesting? (depth + 1) rest = some 0) :
    ∃ inner', Inside s m inner' := by
  induction first generalizing a inner with
  | nil =>
    obtain rfl := Except.ok.inj ranFirst
    exact ⟨inner, inside⟩
  | cons call first ih =>
    obtain ⟨b, done, ranFirst⟩ := run_cons_ok.mp ranFirst
    have ran := run_append_ok.mpr ⟨m, ranFirst, ranRest⟩
    obtain ⟨inner', inside, stays⟩ := inside.call covered done stays ran closes
    exact ih inside ranFirst stays

/-- A group that is not exposed takes no connective from before it, if it can be closed. -/
theorem keeps_of_covered {s : Assembly I O} (upright : Upright s) (covered : ¬ s.Exposed)
    {first rest : List (ChainCall I O)} {m t : Assembly I O} (balanced : Balanced (first ++ rest))
    (ranFirst : s.openGroup.run first = .ok m) (ranRest : m.run (rest ++ [.closeGroup]) = .ok t) :
    s.operators <:+ m.operators := by
  rw [ChainCall.Balanced, nesting?_append, Option.bind_eq_some_iff] at balanced
  obtain ⟨depth, stays, closes⟩ := balanced
  have closesAll : nesting? (depth + 1) (rest ++ [.closeGroup]) = some 0 := by
    rw [nesting?_append, nesting?_succ closes]
    rfl
  obtain ⟨inner, inside⟩ :=
    (inside_openGroup upright).run covered ranFirst stays ranRest closesAll
  exact inside.waiting

/-- A group is closed with as many connectives as it was opened with, or closing it fails. -/
theorem closeGroup_cases {a : Assembly I O} {frame : OpenGroup} {outer : List OpenGroup}
    (groups : a.groups = frame :: outer) :
    (a.closeGroup.1 = .ok () ∧ a.operators.length = frame.operatorsBefore) ∨
      a.closeGroup.1 = .error .unbalancedOperator := by
  obtain ⟨operands, operators, _, pushNext⟩ := a
  subst groups
  cases done : closeGroup ⟨operands, operators, frame :: outer, pushNext⟩ with
  | mk result after =>
    have closes : call ⟨operands, operators, frame :: outer, pushNext⟩ .closeGroup =
        (result, after) := done
    cases call_effect closes with
    | unfinished crowded => exact .inr rfl
    | closedEmpty empty level => exact .inl ⟨rfl, level⟩
    | closedApart single level apart => exact .inl ⟨rfl, level⟩
    | closedJoined height level joins even => exact .inl ⟨rfl, level⟩
    | closedDropping height level joins odd => exact .inr rfl

theorem run_groups {a b : Assembly I O} {calls : List (ChainCall I O)} (ran : a.run calls = .ok b)
    {inner outer : List OpenGroup} (groups : a.groups = inner ++ outer) {depth : Nat}
    (stays : nesting? inner.length calls = some depth) :
    ∃ inner', b.groups = inner' ++ outer ∧ inner'.length = depth := by
  induction calls generalizing a inner with
  | nil =>
    obtain rfl := Except.ok.inj ran
    exact ⟨inner, groups, Option.some.inj stays⟩
  | cons call rest ih =>
    obtain ⟨m, done, ran⟩ := run_cons_ok.mp ran
    obtain ⟨inner', groups, stays, -⟩ := call_groups done groups stays
    exact ih ran groups stays

/-- The calls between the opening and the closing of a group leave it open, and no group inside
it. -/
theorem groups_of_balanced {s t : Assembly I O} {calls : List (ChainCall I O)}
    (balanced : Balanced calls) (ran : s.openGroup.run calls = .ok t) :
    t.groups = s.frame :: s.groups := by
  have opened : s.openGroup.groups = [] ++ s.frame :: s.groups := rfl
  obtain ⟨inner, groups, none⟩ := run_groups ran opened balanced
  rwa [List.length_eq_zero_iff.mp none] at groups

theorem selfContained {s : Assembly I O} (upright : Upright s) (covered : ¬ s.Exposed) :
    s.SelfContained where
  keeps _ _ _ _ := keeps_of_covered upright covered
  closes first rest op m t balanced ranFirst ranRest leftOver := by
    have ran := run_append_ok.mpr ⟨m, ranFirst, ranRest⟩
    rcases closeGroup_cases (groups_of_balanced balanced ran) with ⟨done, level⟩ | failed
    · have closed : t.run [.closeGroup] = .ok t.closeGroup.2 := by
        rw [run, call, show t.closeGroup = (.ok (), t.closeGroup.2) from Prod.ext done rfl]
        rfl
      have ranAll := run_append_ok.mpr ⟨t, ranRest, closed⟩
      have kept := (keeps_of_covered upright covered balanced ranFirst ranAll).length_le
      have more := leftOver rest t List.prefix_rfl ranRest
      exact absurd (Nat.lt_of_le_of_lt kept more) (Nat.not_lt_of_le (Nat.le_of_eq level))
    · exact failed

/-- An exposed group takes the last connective that waits before it, and is closed with one of its
own in its place. -/
theorem Exposed.takes {s : Assembly I O} (exposed : s.Exposed) (first second : Comparison I O)
    (op : BooleanOp) : ∃ m t : Assembly I O, s.openGroup.run [.leaf first, .leaf second] = .ok m ∧
      m.operators.length < s.operators.length ∧ m.run [.operator op, .closeGroup] = .ok t := by
  obtain ⟨operands, operators, groups, pushNext⟩ := s
  obtain ⟨waiting, free⟩ :
      operators.length = operands.length + 1 ∧ (pushNext = true ∨ operands = []) :=
    exposed
  cases operators with
  | nil => cases waiting
  | cons last operators =>
    have level : operators.length = operands.length := Nat.succ.inj waiting
    have apart : (!pushNext && !operands.isEmpty) = false := by
      rcases free with rfl | rfl
      · rfl
      · exact Bool.and_false _
    let opened := (frame ⟨operands, last :: operators, groups, pushNext⟩) :: groups
    let m : Assembly I O := ⟨.block last first second :: operands, operators, opened, false⟩
    let t : Assembly I O := ⟨.block last first second :: operands, op :: operators, groups, false⟩
    have pushed : call ⟨operands, last :: operators, opened, true⟩ (.leaf first) =
        (.ok (), ⟨first :: operands, last :: operators, opened, false⟩) :=
      (Effect.pushed (.inl rfl)).call
    have joined :
        call ⟨first :: operands, last :: operators, opened, false⟩ (.leaf second) = (.ok (), m) :=
      (Effect.joined level).call
    have closed : (m.operator op).call .closeGroup = (.ok (), t) :=
      (Effect.closedApart rfl rfl apart).call
    refine ⟨m, t, ?_, Nat.lt_succ_self _, ?_⟩
    · exact run_cons_ok.mpr ⟨_, pushed, run_cons_ok.mpr ⟨_, joined, rfl⟩⟩
    · exact run_cons_ok.mpr ⟨_, rfl, run_cons_ok.mpr ⟨_, closed, rfl⟩⟩

/-- In every state that calls lead to which all succeed, a group keeps to its own connectives,
unless the state is exposed: a group that is opened there can take the last connective that waits
before it, and be closed with one of its own in its place. -/
theorem group_keeps_connectives {before : List (ChainCall I O)} {s : Assembly I O}
    (ran : empty.run before = .ok s) :
    (¬ s.Exposed → s.SelfContained) ∧
    (s.Exposed → ∀ (first second : Comparison I O) (op : BooleanOp), ∃ m t : Assembly I O,
      s.openGroup.run [.leaf first, .leaf second] = .ok m ∧
      m.operators.length < s.operators.length ∧ m.run [.operator op, .closeGroup] = .ok t) :=
  ⟨selfContained (run_upright ran upright_empty), Exposed.takes⟩

/-- After `1 and` a group is covered, after `or` alone it is exposed. -/
theorem group_keeps_connectives_exStates :
    (∃ s : Assembly Unit Nat, empty.run [.leaf (.equals 1), .operator .and] = .ok s ∧ ¬ s.Exposed ∧
      s.SelfContained) ∧
    ∃ s : Assembly Unit Nat, empty.run [.operator .or] = .ok s ∧ s.Exposed ∧
      ∃ m t : Assembly Unit Nat, s.openGroup.run [.leaf (.equals 2), .leaf (.equals 3)] = .ok m ∧
        m.operators.length < s.operators.length ∧ m.run [.operator .and, .closeGroup] = .ok t := by
  constructor
  · have ran : empty.run [.leaf (.equals 1), .operator .and] =
        .ok (⟨[.equals 1], [.and], [], false⟩ : Assembly Unit Nat) := rfl
    have covered : ¬ Exposed (⟨[.equals 1], [.and], [], false⟩ : Assembly Unit Nat) := by
      simp [Exposed]
    exact ⟨_, ran, covered, (group_keeps_connectives ran).1 covered⟩
  · have ran : empty.run [.operator .or] = .ok (⟨[], [.or], [], false⟩ : Assembly Unit Nat) := rfl
    have exposed : Exposed (⟨[], [.or], [], false⟩ : Assembly Unit Nat) := ⟨rfl, .inr rfl⟩
    exact ⟨_, ran, exposed, (group_keeps_connectives ran).2 exposed (.equals 2) (.equals 3) .and⟩

/-- In `or (2 3 and)` all calls succeed, but the group joins 2 and 3 by the `or` from before it, and
is closed although its own `and` is left over. -/
theorem group_takes_connective :
    ∃ s m t : Assembly Unit Nat, empty.run [.operator .or] = .ok s ∧
      s.openGroup.run [.leaf (.equals 2), .leaf (.equals 3)] = .ok m ∧
      m.run [.operator .and, .closeGroup] = .ok t ∧
      s.operators = [.or] ∧ m.operators = [] ∧ t.operators = [.and] ∧ ¬ s.SelfContained := by
  refine ⟨_, _, _, rfl, rfl, rfl, rfl, rfl, rfl, fun contained => ?_⟩
  have kept :=
    contained.keeps [.leaf (.equals 2), .leaf (.equals 3)] [.operator .and] _ _ rfl rfl rfl
  exact absurd kept.length_le (by decide)

end Assembly

end PropertyTesting
