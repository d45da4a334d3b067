import Mathlib.Data.List.TakeWhile
import StaticHost.Proofs.CommandGrammar
import StaticHost.Proofs.Utf8

/-!
One level of a command line is accepted where it is a level of the grammar.

What is pending does not matter to the arguments that follow, but for the option that waits for its
value: a state can be settled first. From a settled state, every argument that the grammar has adds
its items to those before, and every other one is refused. So the arguments of a level are accepted
where they spell items that can be added one after another.
-/

namespace StaticHost.CommandLine

variable {scope : Scope} {s s' : State} {arg word : Bytes} {args : List Bytes} {o : ValueOption}

/-! ### The shapes of an argument -/

lemma arg_cases (arg : Bytes) : IsPlain arg ∨ arg = dashes ∨
    (∃ letter rest, letter ≠ dash ∧ arg = dash :: letter :: rest) ∨
    ∃ body, body ≠ [] ∧ arg = dash :: dash :: body := by
  rcases arg with _ | ⟨first, _ | ⟨second, body⟩⟩
  · exact .inl (by simp [IsPlain])
  · exact .inl (by simp [IsPlain])
  · by_cases hf : first = dash
    · subst hf
      by_cases hs : second = dash
      · subst hs
        by_cases hb : body = []
        · exact .inr (.inl (by rw [hb, dashes]))
        · exact .inr (.inr (.inr ⟨body, hb, rfl⟩))
      · exact .inr (.inr (.inl ⟨second, body, hs, rfl⟩))
    · exact .inl fun h => absurd (Option.some.inj h) hf

lemma take_closed (h : s.positionalOnly = true) :
    take scope s arg = takePositional scope s arg := by
  simp [take, h]

section Open

variable (hs : s.positionalOnly = false)
include hs

lemma take_plain (h : IsPlain arg) : take scope s arg = takePlain scope s arg := by
  rcases arg with _ | ⟨first, _ | ⟨second, body⟩⟩
  · simp [take, hs]
  · simp [take, hs]
  · have hf : first ≠ dash := by
      rintro rfl
      simpa using h rfl
    simp [take, hs, hf]

lemma take_dashes : take scope s dashes = .ok { s with positionalOnly := true } := by
  simp [take, hs, dashes]

lemma take_cluster {letter : UInt8} (h : letter ≠ dash) (rest : Bytes) :
    take scope s (dash :: letter :: rest) = takeCluster scope s (letter :: rest) := by
  simp [take, hs, h]

lemma take_long {body : Bytes} (h : body ≠ []) :
    take scope s (dash :: dash :: body) =
      takeLong scope s (splitLong body).1 (splitLong body).2 := by
  simp [take, hs, h]

end Open

/-! ### Settling first -/

namespace State

/-- The next argument is the value of an option, unless it looks like one itself. -/
def Waits (s : State) : Prop :=
  s.positionalOnly = false ∧ ∃ o, s.pending = .option o none

lemma settle_of_pending (h : s.pending = .none) : s.settle = .ok s := by
  rw [settle, h]

/-- Settling leaves nothing pending, and changes neither flag. -/
lemma settle_spec (h : s.settle = .ok s') :
    s'.pending = .none ∧ s'.positionalOnly = s.positionalOnly ∧ s'.hasRoute = s.hasRoute := by
  obtain ⟨settled, pending, closed, hasRoute⟩ := s
  rcases pending with _ | ⟨o, _ | value⟩ | value
  · cases h
    exact ⟨rfl, rfl, rfl⟩
  · cases h
  · simp only [settle] at h
    cases hg : settled.give o value with
    | error e => simp [hg, Except.map] at h
    | ok settled' =>
      simp only [hg, Except.map, Except.ok.injEq] at h
      subst h
      exact ⟨rfl, rfl, rfl⟩
  · simp only [settle] at h
    cases hr : Bytes.toString? value with
    | none => simp [hr] at h
    | some route =>
      simp only [hr, Except.ok.injEq] at h
      subst h
      exact ⟨rfl, rfl, rfl⟩

lemma settle_settled (h : s.settle = .ok s') : s'.settle = .ok s' :=
  settle_of_pending (settle_spec h).1

/-- What is pending is settled alike before and behind two dashes. -/
lemma settle_close (s : State) :
    ({ s with positionalOnly := true } : State).settle =
      s.settle.map fun s => { s with positionalOnly := true } := by
  obtain ⟨settled, pending, closed, hasRoute⟩ := s
  rcases pending with _ | ⟨o, _ | value⟩ | value
  · rfl
  · rfl
  · simp only [settle]
    cases settled.give o value <;> rfl
  · simp only [settle]
    cases Bytes.toString? value <;> rfl

end State

/-- The step settles the state before it does anything that can go well. -/
def SettlesFirst (f : State → Except Refusal State) (s : State) : Prop :=
  (f s).toOption = s.settle.toOption.bind fun s' => (f s').toOption

lemma settlesFirst_of_bind {f g : State → Except Refusal State} (s : State)
    (h : ∀ s, f s = s.settle.bind g) : SettlesFirst f s := by
  rw [SettlesFirst, h s]
  cases hs : s.settle with
  | error e => rfl
  | ok s' =>
    change _ = (f s').toOption
    rw [h s', State.settle_settled hs]

lemma SettlesFirst.congr {f g : State → Except Refusal State} (h : SettlesFirst g s)
    (hs : f s = g s) (hs' : ∀ s', s.settle = .ok s' → f s' = g s') : SettlesFirst f s := by
  rw [SettlesFirst] at h ⊢
  rw [hs, h]
  cases hset : s.settle with
  | error e => rfl
  | ok s' => exact congrArg Except.toOption (hs' s' hset).symm

lemma settlesFirst_error {f : State → Except Refusal State} (s : State)
    (h : ∀ s, ∃ e, f s = .error e) : SettlesFirst f s := by
  obtain ⟨e, he⟩ := h s
  rw [SettlesFirst, he]
  cases s.settle with
  | error e' => rfl
  | ok s' =>
    obtain ⟨e', he'⟩ := h s'
    exact (congrArg Except.toOption he').symm

lemma toOption_bind {α β : Type} (x : Except Refusal α) (f : α → Except Refusal β) :
    (x.bind f).toOption = x.toOption.bind fun a => (f a).toOption := by
  cases x <;> rfl

lemma SettlesFirst.bind {f : State → Except Refusal State} (h : SettlesFirst f s)
    (g : State → Except Refusal State) : SettlesFirst (fun s => (f s).bind g) s := by
  rw [SettlesFirst] at h ⊢
  simp only [toOption_bind, h, Option.bind_assoc]

lemma settlesFirst_attach (o : ValueOption) (v : Bytes) (s : State) :
    SettlesFirst (·.attach o v) s :=
  settlesFirst_of_bind s fun _ => rfl

lemma settlesFirst_await (o : ValueOption) (s : State) : SettlesFirst (·.await o) s :=
  settlesFirst_of_bind s fun _ => rfl

lemma settlesFirst_flip (scope : Scope) (w : Switch) (s : State) :
    SettlesFirst (·.flip scope w) s :=
  settlesFirst_of_bind s fun _ => rfl

lemma settlesFirst_takeLong (scope : Scope) (name : Bytes) (value : Option Bytes) (s : State) :
    SettlesFirst (takeLong scope · name value) s := by
  unfold takeLong
  rcases longOption? scope name with _ | o | w
  · exact settlesFirst_error s fun _ => ⟨_, rfl⟩
  · cases value with
    | none => exact settlesFirst_await o s
    | some v => exact settlesFirst_attach o v s
  · cases value with
    | none => exact settlesFirst_flip scope w s
    | some v => exact settlesFirst_error s fun _ => ⟨_, rfl⟩

lemma settlesFirst_takeCluster (scope : Scope) (letter : UInt8) (rest : Bytes) (s : State) :
    SettlesFirst (takeCluster scope · (letter :: rest)) s := by
  simp only [takeCluster]
  rcases shortOption? scope letter with _ | o | w
  · exact settlesFirst_error s fun _ => ⟨_, rfl⟩
  · cases rest with
    | nil => exact settlesFirst_await o s
    | cons first value => exact settlesFirst_attach o _ s
  · exact (settlesFirst_flip scope w s).bind _

/-- Only `render` takes a positional argument. -/
lemma takePositional_of_ne (h : scope ≠ .sub .render) (s : State) (arg : Bytes) :
    ∃ e, takePositional scope s arg = .error e := by
  rcases scope with _ | _ | _ | _
  · simp only [takePositional]
    split_ifs <;> exact ⟨_, rfl⟩
  · exact ⟨_, rfl⟩
  · exact absurd rfl h
  · exact ⟨_, rfl⟩

lemma settlesFirst_takePositional (scope : Scope) (arg : Bytes) (s : State) :
    SettlesFirst (takePositional scope · arg) s := by
  by_cases hscope : scope = .sub .render
  · subst hscope
    simp only [SettlesFirst, takePositional]
    cases hs : s.settle with
    | error e => split_ifs <;> rfl
    | ok s' =>
      obtain ⟨-, -, hroute⟩ := State.settle_spec hs
      change _ = (if s'.hasRoute then _ else s'.settle.map _ : Except Refusal State).toOption
      rw [hroute, State.settle_settled hs]
  · exact settlesFirst_error s (takePositional_of_ne hscope · arg)

lemma takePlain_of_not_waits (hs : s.positionalOnly = false) (hw : ¬ s.Waits) :
    takePlain scope s arg = takePositional scope s arg := by
  have hne : ∀ o, s.pending ≠ .option o none := fun o ho => hw ⟨hs, o, ho⟩
  unfold takePlain
  split
  · exact absurd ‹_› (hne _)
  · rfl

/-- **Settling comes first**, but for two dashes and the value that an option waits for. -/
lemma settlesFirst_take (hw : IsPlain arg → ¬ s.Waits)
    (hd : arg ≠ dashes ∨ s.positionalOnly = true) :
    SettlesFirst (take scope · arg) s := by
  by_cases hc : s.positionalOnly = true
  · refine (settlesFirst_takePositional scope arg s).congr (take_closed hc) fun s' hs' => ?_
    exact take_closed ((State.settle_spec hs').2.1.trans hc)
  · rw [Bool.not_eq_true] at hc
    have hc' : ∀ s', s.settle = .ok s' → s'.positionalOnly = false := fun s' hs' =>
      (State.settle_spec hs').2.1.trans hc
    rcases arg_cases arg with hp | rfl | ⟨letter, rest, hl, rfl⟩ | ⟨body, hb, rfl⟩
    · refine (settlesFirst_takePositional scope arg s).congr ?_ fun s' hs' => ?_
      · rw [take_plain hc hp, takePlain_of_not_waits hc (hw hp)]
      · rw [take_plain (hc' s' hs') hp, takePlain, (State.settle_spec hs').1]
    · simp [hc] at hd
    · exact (settlesFirst_takeCluster scope letter rest s).congr (take_cluster hc hl rest)
        fun s' hs' => take_cluster (hc' s' hs') hl rest
    · exact (settlesFirst_takeLong scope _ _ s).congr (take_long hc hb)
        fun s' hs' => take_long (hc' s' hs') hb

/-! ### All arguments of a level -/

/-- The state at the end of a level, if no argument is refused. -/
def finish (scope : Scope) (s : State) (args : List Bytes) : Option State :=
  ((takeAll scope s args).bind State.settle).toOption

@[simp] lemma finish_nil (scope : Scope) (s : State) : finish scope s [] = s.settle.toOption := rfl

lemma finish_cons (scope : Scope) (s : State) (arg : Bytes) (args : List Bytes) :
    finish scope s (arg :: args) = (take scope s arg).toOption.bind (finish scope · args) := by
  cases h : take scope s arg <;> simp [finish, takeAll, h, Except.bind, Except.toOption]

lemma toOption_eq_some {α : Type} {x : Except Refusal α} {a : α} :
    x.toOption = some a ↔ x = .ok a := by
  cases x <;> simp [Except.toOption]

lemma finish_cons_eq_some : finish scope s (arg :: args) = some s' ↔
    ∃ s₁, take scope s arg = .ok s₁ ∧ finish scope s₁ args = some s' := by
  simp only [finish_cons, Option.bind_eq_some_iff, toOption_eq_some]

/-- **A state that waits for no value** may be settled before the arguments that follow. -/
lemma finish_eq_bind (hw : ¬ s.Waits) (args : List Bytes) :
    finish scope s args = s.settle.toOption.bind (finish scope · args) := by
  induction args generalizing s with
  | nil =>
    simp only [finish_nil]
    cases hs : s.settle with
    | error e => rfl
    | ok s' => exact (congrArg Except.toOption (State.settle_settled hs)).symm
  | cons arg args ih =>
    by_cases hd : arg ≠ dashes ∨ s.positionalOnly = true
    · -- the first step settles, and the others run from where it ends
      simp only [finish_cons]
      rw [show (take scope s arg).toOption = _ from settlesFirst_take (fun _ => hw) hd,
        Option.bind_assoc]
    · simp only [not_or, not_not, Bool.not_eq_true] at hd
      obtain ⟨rfl, hc⟩ := hd
      -- two dashes leave the pending option as it is; but behind them it no longer waits
      have hclosed : ¬ ({ s with positionalOnly := true } : State).Waits := fun h => by cases h.1
      rw [finish_cons, take_dashes hc]
      change finish scope { s with positionalOnly := true } args = _
      rw [ih hclosed, State.settle_close]
      cases hs : s.settle with
      | error e => rfl
      | ok s' =>
        change _ = finish scope s' (dashes :: args)
        rw [finish_cons, take_dashes ((State.settle_spec hs).2.1.trans hc)]
        rfl

/-! ### Adding items -/

/-- The settled options with one item more: an option is given once, and only `render` takes a
positional argument, once, as a text. -/
def Settled.add (scope : Scope) (t : Settled) : Item → Option Settled
  | .verbose => if t.verbose then none else some { t with verbose := true }
  | .value o v => if (t.get o).isSome then none else some (t.set v o)
  | .positional arg =>
    if scope = .sub .render ∧ t.route = none then
      (Bytes.toString? arg).map fun route => { t with route := some route }
    else none

def Settled.addAll (scope : Scope) (t : Settled) (items : List Item) : Option Settled :=
  items.foldlM (Settled.add scope) t

@[simp] lemma Settled.addAll_nil (scope : Scope) (t : Settled) : t.addAll scope [] = some t := rfl

lemma Settled.addAll_cons (scope : Scope) (t : Settled) (item : Item) (items : List Item) :
    t.addAll scope (item :: items) = (t.add scope item).bind (·.addAll scope items) := rfl

lemma Settled.addAll_append (scope : Scope) (t : Settled) (items more : List Item) :
    t.addAll scope (items ++ more) = (t.addAll scope items).bind (·.addAll scope more) :=
  List.foldlM_append

@[simp] lemma Settled.addAll_singleton (scope : Scope) (t : Settled) (item : Item) :
    t.addAll scope [item] = t.add scope item := by
  rw [addAll_cons]
  exact Option.bind_fun_some _

/-- Only `render` takes a positional argument. -/
lemma Settled.add_positional_of_ne (h : scope ≠ .sub .render) (t : Settled) (arg : Bytes) :
    t.add scope (.positional arg) = none :=
  if_neg fun hr => h hr.1

def State.resting (t : Settled) (closed : Bool) : State :=
  ⟨t, .none, closed, t.route.isSome⟩

@[simp] lemma State.settled_resting (t : Settled) (closed : Bool) :
    (State.resting t closed).settled = t := rfl

def State.waiting (t : Settled) (o : ValueOption) : State :=
  { State.resting t false with pending := .option o none }

variable {t t' : Settled} {items : List Item} {closed : Bool} {v : Bytes}

lemma give_eq_add (scope : Scope) (hv : v ≠ []) (t : Settled) (o : ValueOption) :
    (t.give o v).toOption = t.add scope (.value o v) := by
  unfold Settled.give Settled.add
  by_cases h : (t.get o).isSome = true
  · simp only [if_pos h]
    rfl
  · simp only [if_neg h, if_neg hv]
    rfl

lemma give_empty (t : Settled) (o : ValueOption) : (t.give o []).toOption = none := by
  simp only [Settled.give, if_true]
  split_ifs <;> rfl

/-- Giving a value to an option leaves the route alone. -/
lemma resting_give (h : t.give o v = .ok t') :
    ({ State.resting t false with settled := t' } : State) = .resting t' false := by
  have hroute : t'.route = t.route := by
    unfold Settled.give at h
    split_ifs at h
    cases h
    cases o <;> rfl
  simp [State.resting, hroute]

lemma attach_resting (scope : Scope) (hv : v ≠ []) :
    ((State.resting t false).attach o v).toOption =
      (t.add scope (.value o v)).map (State.resting · false) := by
  rw [← give_eq_add scope hv]
  change ((t.give o v).bind fun t' => .ok { State.resting t false with settled := t' }).toOption = _
  cases hg : t.give o v with
  | error e => rfl
  | ok t' => exact congrArg some (resting_give hg)

lemma flip_resting :
    ((State.resting t false).flip scope .verbose).toOption =
      (t.add scope .verbose).map (State.resting · false) := by
  obtain ⟨config, out, verbose, route⟩ := t
  cases verbose <;> rfl

lemma await_resting :
    (State.resting t false).await o = .ok (.waiting t o) := rfl

/-! ### Options, from a settled state -/

lemma shortOption?_letter (scope : Scope) (o : ValueOption) :
    shortOption? scope o.letter = some (.inl o) := by
  cases o <;> rfl

lemma letter_ne_dash (o : ValueOption) : o.letter ≠ dash := by
  cases o <;> decide

lemma takeCluster_verbose (rest : Bytes) :
    takeCluster scope s ('v'.toUInt8 :: rest) =
      (s.flip scope .verbose).bind fun s => takeCluster scope s rest := rfl

/-- The switches of a cluster come first. -/
lemma takeCluster_switches {letters : Bytes} (hs : Switches letters items) (t : Settled)
    (rest : Bytes) :
    (takeCluster scope (.resting t false) (letters ++ rest)).toOption =
      (t.addAll scope items).bind fun t =>
        (takeCluster scope (.resting t false) rest).toOption := by
  cases hs with
  | none => rfl
  | verbose =>
    rw [List.singleton_append, takeCluster_verbose, toOption_bind, flip_resting,
      Settled.addAll_singleton, Option.bind_map]
    rfl

lemma take_switches {letters : Bytes} (hs : Switches letters items) (o : ValueOption)
    (text : Bytes) (t : Settled) :
    take scope (.resting t false) (dash :: (letters ++ o.letter :: text)) =
      takeCluster scope (.resting t false) (letters ++ o.letter :: text) := by
  cases hs with
  | none => exact take_cluster rfl (letter_ne_dash o) text
  | verbose => exact take_cluster rfl (by decide) _

lemma takeCluster_attached {text : Bytes} (ht : Attached text v) (hv : v ≠ []) (s : State) :
    takeCluster scope s (o.letter :: text) = s.attach o v := by
  simp only [takeCluster, shortOption?_letter]
  rcases ht with rfl | ⟨rfl, hne⟩
  · simp
  · cases text with
    | nil => exact absurd rfl hv
    | cons first value =>
      have hfirst : first ≠ equals := fun h => hne (by rw [h]; rfl)
      simp [hfirst]

/-- What stands before the first equals sign is the name. -/
lemma splitLong_value {name : Bytes} (h : equals ∉ name) (v : Bytes) :
    splitLong (name ++ equals :: v) = (name, some v) := by
  have hname : (name ++ equals :: v).takeWhile (· != equals) = name := by
    rw [List.takeWhile_append_of_pos fun b hb => bne_iff_ne.mpr (ne_of_mem_of_not_mem hb h)]
    simp
  simp [splitLong, hname]

lemma splitLong_name {name : Bytes} (h : equals ∉ name) : splitLong name = (name, none) := by
  have hname : name.takeWhile (· != equals) = name :=
    List.takeWhile_eq_self_iff.mpr fun b hb => bne_iff_ne.mpr (ne_of_mem_of_not_mem hb h)
  simp [splitLong, hname]

lemma longOption?_name (scope : Scope) (o : ValueOption) :
    longOption? scope o.name = some (.inl o) := by
  cases o <;> rfl

lemma equals_not_mem_name (o : ValueOption) : equals ∉ o.name := by
  cases o <;> decide

/-- **An option that is complete** adds its items. -/
lemma take_complete (hw : Complete word items) (t : Settled) :
    (take scope (.resting t false) word).toOption =
      (t.addAll scope items).map (State.resting · false) := by
  cases hw with
  | verbose =>
    rw [show Bytes.ofString "--verbose" = dash :: dash :: Bytes.ofString "verbose" from rfl,
      take_long rfl (by decide), splitLong_name (by decide), Settled.addAll_singleton]
    exact flip_resting
  | long o hv =>
    rw [ValueOption.word, List.cons_append, List.cons_append, take_long rfl (by simp),
      splitLong_value (equals_not_mem_name o), Settled.addAll_singleton]
    simp only [takeLong, longOption?_name]
    exact attach_resting scope hv
  | short =>
    rw [take_cluster rfl (by decide), takeCluster_verbose, toOption_bind,
      Settled.addAll_singleton, flip_resting]
    exact Option.bind_fun_some _
  | cluster hs o ht hv =>
    rw [take_switches hs, takeCluster_switches hs, Settled.addAll_append]
    simp only [takeCluster_attached ht hv, attach_resting scope hv, Settled.addAll_singleton]
    exact Option.map_bind.symm

/-- **An option without its value** adds its items and waits. -/
lemma take_open (hw : Open word items o) (t : Settled) :
    (take scope (.resting t false) word).toOption =
      (t.addAll scope items).map (State.waiting · o) := by
  cases hw with
  | long =>
    rw [ValueOption.word, take_long rfl (by cases o <;> decide),
      splitLong_name (equals_not_mem_name o)]
    simp only [takeLong, longOption?_name]
    rfl
  | cluster hs =>
    rw [take_switches hs, takeCluster_switches hs]
    simp only [takeCluster, shortOption?_letter, await_resting]
    exact (Option.map_eq_bind ..).symm

/-! ### A level of the grammar is accepted -/

lemma not_waits_resting (t : Settled) (closed : Bool) : ¬ (State.resting t closed).Waits :=
  fun ⟨_, _, h⟩ => by cases h

lemma finish_takePositional (t : Settled) (arg : Bytes) (args : List Bytes) :
    (takePositional scope (.resting t closed) arg).toOption.bind (finish scope · args) =
      (t.add scope (.positional arg)).bind fun t => finish scope (.resting t closed) args := by
  by_cases hscope : scope = .sub .render
  · subst hscope
    obtain ⟨config, out, verbose, _ | route⟩ := t
    · let pending : State :=
        { settled := ⟨config, out, verbose, none⟩, pending := .route arg, positionalOnly := closed,
          hasRoute := true }
      have hw : ¬ pending.Waits := fun ⟨_, _, h⟩ => by cases h
      change finish _ pending args = _
      rw [finish_eq_bind hw]
      cases hr : Bytes.toString? arg with
      | none => simp [pending, State.settle, Settled.add, hr, Except.toOption]
      | some route =>
        simp [pending, State.settle, Settled.add, hr, Except.toOption, State.resting]
    · rfl
  · obtain ⟨e, he⟩ := takePositional_of_ne hscope (.resting t closed) arg
    rw [he, Settled.add_positional_of_ne hscope]
    rfl

lemma finish_plain (hp : IsPlain arg) (t : Settled) (args : List Bytes) :
    finish scope (.resting t false) (arg :: args) =
      (t.add scope (.positional arg)).bind fun t => finish scope (.resting t false) args := by
  rw [finish_cons, take_plain rfl hp,
    takePlain_of_not_waits rfl (not_waits_resting t false), finish_takePositional]

lemma finish_closed (t : Settled) (behind : List Bytes) :
    finish scope (.resting t true) behind =
      (t.addAll scope (behind.map .positional)).map (State.resting · true) := by
  induction behind generalizing t with
  | nil => rfl
  | cons arg behind ih =>
    rw [finish_cons, take_closed rfl, finish_takePositional, List.map_cons, Settled.addAll_cons]
    simp only [ih]
    exact Option.map_bind.symm

/-- An option that has just been given its value is settled next. -/
lemma finish_given (t : Settled) (o : ValueOption) (v : Bytes) (args : List Bytes) :
    finish scope { State.resting t false with pending := .option o (some v) } args =
      (t.give o v).toOption.bind fun t => finish scope (.resting t false) args := by
  rw [finish_eq_bind fun ⟨_, _, h⟩ => by cases h]
  simp only [State.settle]
  change (((t.give o v).map _).toOption.bind _) = _
  cases hg : t.give o v with
  | error e => rfl
  | ok t' => exact congrArg (finish scope · args) (resting_give hg)

lemma finish_value (hp : IsPlain v) (hv : v ≠ []) (t : Settled) (o : ValueOption)
    (args : List Bytes) :
    finish scope (.waiting t o) (v :: args) =
      (t.add scope (.value o v)).bind fun t => finish scope (.resting t false) args := by
  rw [finish_cons, take_plain rfl hp, ← give_eq_add scope hv]
  exact finish_given t o v args

/-- **What an option waits for** has to be a value. -/
lemma finish_waiting_none (h : ¬ (IsPlain v ∧ v ≠ [])) (t : Settled) (o : ValueOption)
    (args : List Bytes) : finish scope (.waiting t o) (v :: args) = none := by
  by_cases hp : IsPlain v
  · obtain rfl : v = [] := by
      by_contra hv
      exact h ⟨hp, hv⟩
    rw [finish_cons, take_plain rfl hp]
    refine (finish_given t o [] args).trans ?_
    rw [give_empty]
    rfl
  · by_cases hd : v = dashes
    · subst hd
      rw [finish_cons, take_dashes rfl]
      exact finish_eq_bind (fun ⟨h, _⟩ => by cases h) args
    · rw [finish_cons, show (take scope (.waiting t o) v).toOption = _ from
        settlesFirst_take (fun hp' => absurd hp' hp) (.inl hd)]
      rfl

/-- **A level of the grammar** adds its items. -/
lemma finish_level (h : Level args items closed) (t : Settled) :
    finish scope (.resting t false) args =
      (t.addAll scope items).map (State.resting · closed) := by
  induction h generalizing t with
  | nil => rfl
  | complete hw _ ih =>
    rw [finish_cons, take_complete hw, Settled.addAll_append, Option.bind_map, Option.map_bind]
    exact Option.bind_congr fun t _ => ih t
  | valued hw hp hv _ ih =>
    rw [finish_cons, take_open hw, Settled.addAll_append, Option.bind_map, Option.map_bind]
    refine Option.bind_congr fun t _ => ?_
    refine (finish_value hp hv t _ _).trans ?_
    rw [Function.comp_apply, Settled.addAll_cons, Option.map_bind]
    exact Option.bind_congr fun t _ => ih t
  | plain hp _ ih =>
    rw [finish_plain hp, Settled.addAll_cons, Option.map_bind]
    exact Option.bind_congr fun t _ => ih t
  | closed behind =>
    rw [finish_cons, take_dashes rfl]
    exact finish_closed t behind

/-! ### What the grammar does not have is refused -/

/-- The argument is an option of the grammar, or no settled state takes it. -/
def Decided (word : Bytes) : Prop :=
  (∃ items, Complete word items) ∨ (∃ items o, Open word items o) ∨
    ∀ scope t, (take scope (.resting t false) word).toOption = none

lemma attach_empty (t : Settled) (o : ValueOption) :
    ((State.resting t false).attach o []).toOption = none := by
  change ((t.give o []).bind _).toOption = none
  rw [toOption_bind, give_empty]
  rfl

lemma decided_letter {letters : Bytes} (hs : Switches letters items) (o : ValueOption)
    (text : Bytes) : Decided (dash :: (letters ++ o.letter :: text)) := by
  rcases text with _ | ⟨first, value⟩
  · exact .inr (.inl ⟨items, o, .cluster hs o⟩)
  · by_cases hfirst : first = equals
    · subst hfirst
      by_cases hv : value = []
      · subst hv
        refine .inr (.inr fun scope t => ?_)
        rw [take_switches hs, takeCluster_switches hs]
        simp only [takeCluster, shortOption?_letter, if_true, attach_empty]
        exact Option.bind_fun_none ..
      · exact .inl ⟨_, .cluster hs o (.inl rfl) hv⟩
    · exact .inl ⟨_, .cluster hs o (.inr ⟨rfl, by simpa using hfirst⟩) (by simp)⟩

/-- A letter is an option's or the switch's, or it is refused. -/
lemma letter_cases (letter : UInt8) :
    (∃ o : ValueOption, letter = o.letter) ∨ letter = 'v'.toUInt8 ∨
      ∀ scope t rest, (takeCluster scope (.resting t false) (letter :: rest)).toOption = none := by
  by_cases hc : letter = 'c'.toUInt8
  · exact .inl ⟨.config, hc⟩
  by_cases ho : letter = 'o'.toUInt8
  · exact .inl ⟨.out, ho⟩
  by_cases hv : letter = 'v'.toUInt8
  · exact .inr (.inl hv)
  refine .inr (.inr fun scope t rest => ?_)
  simp only [takeCluster, shortOption?, if_neg hc, if_neg ho, if_neg hv]
  split_ifs <;> rfl

lemma decided_cluster {letter : UInt8} (hl : letter ≠ dash) (rest : Bytes) :
    Decided (dash :: letter :: rest) := by
  rcases letter_cases letter with ⟨o, rfl⟩ | rfl | hnone
  · exact decided_letter .none o rest
  · rcases rest with _ | ⟨second, rest⟩
    · exact .inl ⟨_, .short⟩
    · rcases letter_cases second with ⟨o, rfl⟩ | rfl | hnone
      · exact decided_letter .verbose o rest
      · refine .inr (.inr fun scope t => ?_)
        rw [take_cluster rfl hl]
        refine (takeCluster_switches .verbose t _).trans ?_
        simp only [takeCluster_verbose, toOption_bind, flip_resting, Settled.addAll_singleton]
        cases hv : t.verbose <;> simp [Settled.add, hv]
      · refine .inr (.inr fun scope t => ?_)
        rw [take_cluster rfl hl]
        refine (takeCluster_switches .verbose t (second :: rest)).trans ?_
        simp only [hnone]
        exact Option.bind_fun_none ..
  · refine .inr (.inr fun scope t => ?_)
    rw [take_cluster rfl hl, hnone]

/-- A name that is neither an option's nor the switch's is refused, and a value for the switch. -/
lemma takeLong_unknown {name : Bytes} (ho : ∀ o : ValueOption, name ≠ o.name)
    (value : Option Bytes) (hv : name = Bytes.ofString "verbose" → value ≠ none) (scope : Scope)
    (t : Settled) : (takeLong scope (.resting t false) name value).toOption = none := by
  have hconfig : name ≠ Bytes.ofString "config" := ho .config
  have hout : name ≠ Bytes.ofString "out" := ho .out
  simp only [takeLong, longOption?, if_neg hconfig, if_neg hout]
  cases value with
  | none =>
    rw [if_neg fun h => hv h rfl]
    split_ifs <;> rfl
  | some v => split_ifs <;> rfl

lemma decided_long {body : Bytes} (hb : body ≠ []) : Decided (dash :: dash :: body) := by
  by_cases heq : equals ∈ body
  · obtain ⟨name, v, rfl, hname⟩ := List.eq_append_cons_of_mem heq
    by_cases ho : ∃ o : ValueOption, name = o.name
    · obtain ⟨o, rfl⟩ := ho
      by_cases hv : v = []
      · subst hv
        refine .inr (.inr fun scope t => ?_)
        rw [take_long rfl hb, splitLong_value hname]
        simp only [takeLong, longOption?_name, attach_empty]
      · exact .inl ⟨_, .long o hv⟩
    · refine .inr (.inr fun scope t => ?_)
      rw [take_long rfl hb, splitLong_value hname]
      exact takeLong_unknown (not_exists.mp ho) (some v) (fun _ => by simp) scope t
  · by_cases ho : ∃ o : ValueOption, body = o.name
    · obtain ⟨o, rfl⟩ := ho
      exact .inr (.inl ⟨_, o, .long o⟩)
    · by_cases hv : body = Bytes.ofString "verbose"
      · subst hv
        exact .inl ⟨_, .verbose⟩
      · refine .inr (.inr fun scope t => ?_)
        rw [take_long rfl hb, splitLong_name heq]
        exact takeLong_unknown (not_exists.mp ho) none (fun h => absurd h hv) scope t

/-- **What looks like an option** is one of the grammar, or is refused. -/
lemma decided_of_not_plain (hp : ¬ IsPlain word) (hd : word ≠ dashes) : Decided word := by
  rcases arg_cases word with h | h | ⟨letter, rest, hl, rfl⟩ | ⟨body, hb, rfl⟩
  · exact absurd h hp
  · exact absurd h hd
  · exact decided_cluster hl rest
  · exact decided_long hb

/-- **Arguments that are accepted** are a level of the grammar. -/
lemma level_of_finish (h : finish scope (.resting t false) args = some s) :
    ∃ items closed, Level args items closed ∧
      (t.addAll scope items).map (State.resting · closed) = some s := by
  suffices ∃ items closed, Level args items closed by
    obtain ⟨items, closed, hlevel⟩ := this
    exact ⟨items, closed, hlevel, by rw [← finish_level hlevel, h]⟩
  -- an option may use up two arguments, so the induction is on their number
  induction hn : args.length using Nat.strongRecOn generalizing args t with
  | _ n ih =>
  subst hn
  rcases args with _ | ⟨arg, args⟩
  · exact ⟨[], false, .nil⟩
  by_cases hp : IsPlain arg
  · rw [finish_plain hp] at h
    obtain ⟨t', -, h⟩ := Option.bind_eq_some_iff.mp h
    obtain ⟨items, closed, hlevel⟩ := ih args.length (by simp) h rfl
    exact ⟨_, closed, .plain hp hlevel⟩
  by_cases hd : arg = dashes
  · subst hd
    exact ⟨_, true, .closed args⟩
  rcases decided_of_not_plain hp hd with ⟨items, hw⟩ | ⟨items, o, hw⟩ | hnone
  · rw [finish_cons, take_complete hw, Option.bind_map] at h
    obtain ⟨t', -, h⟩ := Option.bind_eq_some_iff.mp h
    obtain ⟨rest, closed, hlevel⟩ := ih args.length (by simp) h rfl
    exact ⟨_, closed, .complete hw hlevel⟩
  · rw [finish_cons, take_open hw, Option.bind_map] at h
    obtain ⟨t', -, h⟩ := Option.bind_eq_some_iff.mp h
    rcases args with _ | ⟨v, args⟩
    · cases h
    by_cases hv : IsPlain v ∧ v ≠ []
    · replace h := (finish_value hv.1 hv.2 t' o args).symm.trans h
      obtain ⟨t'', -, h⟩ := Option.bind_eq_some_iff.mp h
      obtain ⟨rest, closed, hlevel⟩ := ih args.length (by simp only [List.length_cons]; omega) h rfl
      exact ⟨_, closed, .valued hw hv.1 hv.2 hlevel⟩
    · cases (finish_waiting_none hv t' o args).symm.trans h
  · rw [finish_cons, hnone] at h
    cases h

end StaticHost.CommandLine
