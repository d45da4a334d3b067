import StaticHost.Proofs.CommandLevels
import StaticHost.Proofs.Results

/-!
Parsing a command line is reading a sentence of the grammar.

The items of a level can be added one after another where no option comes twice; what they add up
to is what the sentence means. A command's name is the only plain argument that may stand among the
options of the first level, and what is behind it is a level of its own.
-/

namespace StaticHost.CommandLine

variable {scope : Scope} {s : State} {t t' : Settled} {items : List Item} {args : List Bytes}

/-! ### What a list of items adds up to -/

/-- The route as the argument that it was. -/
def Settled.routeArgs (t : Settled) : List Bytes :=
  t.route.toList.map Bytes.ofString

/-- The second record has the items that the first one has, and those of the list. -/
structure Gains (scope : Scope) (items : List Item) (t t' : Settled) : Prop where
  verbose : t'.verbose.toNat = t.verbose.toNat + items.count .verbose
  values : ∀ o, (t'.get o).toList = (t.get o).toList ++ valuesOf o items
  routeArgs : t'.routeArgs = t.routeArgs ++ positionals items
  scope : scope = .sub .render ∨ positionals items = []

lemma gains_nil : Gains scope [] t t' ↔ t = t' := by
  constructor
  · rintro ⟨hverbose, hvalues, hroute, -⟩
    have hget : ∀ o, t'.get o = t.get o := fun o => by
      simpa using congrArg List.head? (hvalues o)
    have hverbose' : t'.verbose = t.verbose := by
      cases h : t.verbose <;> cases h' : t'.verbose <;> simp [h, h'] at hverbose <;> rfl
    have hroute' : t'.route = t.route := by
      have hhead := congrArg List.head? hroute
      simp only [Settled.routeArgs, positionals_nil, List.append_nil, List.head?_map,
        Option.head?_toList] at hhead
      exact Option.map_injective (fun _ _ => Bytes.ofString_inj) hhead
    obtain ⟨config, out, verbose, route⟩ := t
    obtain ⟨config', out', verbose', route'⟩ := t'
    obtain rfl : config' = config := hget .config
    obtain rfl : out' = out := hget .out
    obtain rfl : verbose' = verbose := hverbose'
    obtain rfl : route' = route := hroute'
    rfl
  · rintro rfl
    exact ⟨by simp, by simp, by simp, .inr rfl⟩

lemma get_set (t : Settled) (v : Bytes) (o o' : ValueOption) :
    (t.set v o).get o' = if o = o' then some v else t.get o' := by
  cases o <;> cases o' <;> rfl

/-- One item that could be added is gained. -/
lemma gains_of_add {item : Item} (h : t.add scope item = some t') : Gains scope [item] t t' := by
  cases item with
  | verbose =>
    simp only [Settled.add, Option.ite_none_left_eq_some, Option.some.injEq] at h
    obtain ⟨hverbose, rfl⟩ := h
    exact ⟨by simp [hverbose], by simp [Settled.get], by simp [Settled.routeArgs], .inr rfl⟩
  | value o v =>
    simp only [Settled.add, Option.ite_none_left_eq_some, Option.some.injEq] at h
    obtain ⟨hget, rfl⟩ := h
    have hrest : (t.set v o).verbose = t.verbose ∧ (t.set v o).routeArgs = t.routeArgs := by
      cases o <;> exact ⟨rfl, rfl⟩
    refine ⟨by simp [hrest.1], fun o' => ?_, by simp [hrest.2], .inr rfl⟩
    rw [get_set, valuesOf_value, valuesOf_nil]
    split_ifs with ho
    · simp [← ho, Option.not_isSome_iff_eq_none.mp hget]
    · simp
  | positional arg =>
    simp only [Settled.add, Option.ite_none_right_eq_some, Option.map_eq_some_iff] at h
    obtain ⟨⟨hscope, hroute⟩, route, harg, rfl⟩ := h
    obtain rfl := Bytes.toString?_eq_some_iff.mp harg
    exact ⟨by simp, by simp [Settled.get], by simp [Settled.routeArgs, hroute], .inl hscope⟩

/-- The first item of those gained could be added. -/
lemma exists_add_of_gains {item : Item} (h : Gains scope (item :: items) t t') :
    ∃ t₁, t.add scope item = some t₁ := by
  cases item with
  | verbose =>
    -- what is gained counts the flag, and a flag counts once at most
    have hcount := h.verbose
    have hle := t'.verbose.toNat_le
    rw [List.count_cons_self] at hcount
    cases hv : t.verbose with
    | false => exact ⟨{ t with verbose := true }, by simp [Settled.add, hv]⟩
    | true =>
      rw [hv, Bool.toNat_true] at hcount
      omega
  | value o v =>
    have hlen := congrArg List.length (h.values o)
    have hle : (t'.get o).toList.length ≤ 1 := by cases t'.get o <;> simp
    cases hget : t.get o with
    | none => exact ⟨t.set v o, by simp [Settled.add, hget]⟩
    | some w =>
      simp [hget] at hlen
      omega
  | positional arg =>
    have hscope : scope = .sub .render := h.scope.resolve_right (by simp)
    have hroute := h.routeArgs
    unfold Settled.routeArgs at hroute
    cases hfree : t.route with
    | some r => cases hr : t'.route <;> simp [hfree, hr] at hroute
    | none =>
      cases hr : t'.route with
      | none => simp [hfree, hr] at hroute
      | some route =>
        obtain ⟨harg, -⟩ : Bytes.ofString route = arg ∧ _ := by simpa [hfree, hr] using hroute
        exact ⟨{ t with route := some route },
          by simp [Settled.add, hscope, hfree, ← harg, Bytes.toString?_ofString]⟩

lemma gains_cons_iff {item : Item} {t₁ : Settled} (h : Gains scope [item] t t₁) :
    Gains scope (item :: items) t t' ↔ Gains scope items t₁ t' := by
  have hverbose : t₁.verbose.toNat + items.count .verbose =
      t.verbose.toNat + (item :: items).count .verbose := by
    rw [h.verbose, Nat.add_assoc, ← List.count_append, List.singleton_append]
  have hvalues : ∀ o, (t₁.get o).toList ++ valuesOf o items =
      (t.get o).toList ++ valuesOf o (item :: items) := fun o => by
    rw [h.values, List.append_assoc, ← valuesOf_append, List.singleton_append]
  have hargs : t₁.routeArgs ++ positionals items =
      t.routeArgs ++ positionals (item :: items) := by
    rw [h.routeArgs, List.append_assoc, ← positionals_append, List.singleton_append]
  have hscope : (scope = .sub .render ∨ positionals items = []) ↔
      (scope = .sub .render ∨ positionals (item :: items) = []) := by
    have hsplit : positionals (item :: items) = positionals [item] ++ positionals items :=
      positionals_append [item] items
    rcases h.scope with hrender | hnil
    · simp [hrender]
    · rw [hsplit, hnil, List.nil_append]
  exact ⟨fun g => ⟨g.verbose.trans hverbose.symm, fun o => (g.values o).trans (hvalues o).symm,
      g.routeArgs.trans hargs.symm, hscope.mpr g.scope⟩,
    fun g => ⟨g.verbose.trans hverbose, fun o => (g.values o).trans (hvalues o),
      g.routeArgs.trans hargs, hscope.mp g.scope⟩⟩

/-- **Items can be added** where the sum has each option once. -/
theorem addAll_eq_some_iff : t.addAll scope items = some t' ↔ Gains scope items t t' := by
  induction items generalizing t with
  | nil => rw [gains_nil, Settled.addAll_nil, Option.some.injEq]
  | cons item items ih =>
    rw [Settled.addAll_cons, Option.bind_eq_some_iff]
    constructor
    · rintro ⟨t₁, hadd, h⟩
      exact (gains_cons_iff (gains_of_add hadd)).mpr (ih.mp h)
    · intro h
      obtain ⟨t₁, hadd⟩ := exists_add_of_gains h
      exact ⟨t₁, hadd, ih.mpr ((gains_cons_iff (gains_of_add hadd)).mp h)⟩

/-! ### From nothing -/

lemma toList_head? {l : List Bytes} (h : l.length ≤ 1) : l.head?.toList = l := by
  rcases l with _ | ⟨a, _ | ⟨b, l⟩⟩
  · rfl
  · rfl
  · simp at h

/-- The sum of items each of which comes once. -/
lemma gains_of_once (scope : Scope) (ho : Once items) (route : Option String)
    (hr : positionals items = route.toList.map Bytes.ofString)
    (hs : scope = .sub .render ∨ positionals items = []) :
    Gains scope items {} ⟨(valuesOf .config items).head?, (valuesOf .out items).head?,
      Item.verbose ∈ items, route⟩ := by
  refine ⟨?_, fun o => ?_, ?_, hs⟩
  · have hcount := ho.1
    by_cases hmem : Item.verbose ∈ items
    · have hpos := List.count_pos_iff.mpr hmem
      simp only [hmem, decide_true, Bool.toNat_true, Bool.toNat_false]
      omega
    · simp [hmem, List.count_eq_zero.mpr hmem]
  · cases o
    · exact toList_head? (ho.2 .config)
    · exact toList_head? (ho.2 .out)
  · exact hr.symm

section FromNothing

variable (h : Gains scope items {} t)
include h

lemma Gains.toList_get (o : ValueOption) : (t.get o).toList = valuesOf o items := by
  rw [h.values]
  cases o <;> rfl

lemma Gains.get_eq (o : ValueOption) : t.get o = (valuesOf o items).head? := by
  rw [← h.toList_get, Option.head?_toList]

lemma Gains.toNat_verbose : t.verbose.toNat = items.count .verbose := by
  rw [h.verbose]
  exact Nat.zero_add _

lemma Gains.verbose_eq : t.verbose = decide (Item.verbose ∈ items) := by
  have hcount := h.toNat_verbose
  rw [Bool.eq_iff_iff, decide_eq_true_iff, ← List.count_pos_iff, ← hcount]
  cases t.verbose <;> simp

lemma Gains.routeArgs_eq : t.routeArgs = positionals items := by
  rw [h.routeArgs]
  rfl

lemma Gains.once : Once items := by
  refine ⟨?_, fun o => ?_⟩
  · rw [← h.toNat_verbose]
    exact t.verbose.toNat_le
  · rw [← h.toList_get]
    cases t.get o <;> simp

end FromNothing

lemma merge_eq_meaning {scope' : Scope} {top sub : List Item} (h : Gains scope top {} t)
    (h' : Gains scope' sub {} t') (command : Option Command) :
    merge t t' command = meaning top sub command := by
  have hconfig : t.config = _ := h.get_eq .config
  have hout : t.out = _ := h.get_eq .out
  have hconfig' : t'.config = _ := h'.get_eq .config
  have hout' : t'.out = _ := h'.get_eq .out
  simp [merge, meaning, hconfig, hout, hconfig', hout', h.verbose_eq, h'.verbose_eq,
    List.mem_append]

lemma finish_eq_some_iff : finish scope {} args = some s ↔
    ∃ items closed t, Level args items closed ∧ Gains scope items {} t ∧ s = .resting t closed := by
  constructor
  · intro h
    obtain ⟨items, closed, hlevel, hsum⟩ := level_of_finish (t := {}) h
    obtain ⟨t, ht, rfl⟩ := Option.map_eq_some_iff.mp hsum
    exact ⟨items, closed, t, hlevel, addAll_eq_some_iff.mp ht, rfl⟩
  · rintro ⟨items, closed, t, hlevel, ht, rfl⟩
    refine (finish_level hlevel {}).trans ?_
    rw [addAll_eq_some_iff.mpr ht]
    rfl

/-! ### Commands -/

lemma finish_eq_some {s' : State} : finish scope s args = some s' ↔
    ∃ s₁, takeAll scope s args = .ok s₁ ∧ s₁.settle = .ok s' :=
  toOption_eq_some.trans bind_eq_ok_iff

lemma routeArgs_eq_singleton_iff {route : String} :
    t.routeArgs = [Bytes.ofString route] ↔ t.route = some route := by
  unfold Settled.routeArgs
  cases t.route with
  | none => simp
  | some route' => simpa using ⟨Bytes.ofString_inj, congrArg Bytes.ofString⟩

/-- **Behind a command's name** stand its options and its positional arguments. -/
lemma parseSub_eq_ok_iff {c : Subcommand} {command : Command} :
    parseSub c args = .ok (t, command) ↔
      ∃ items closed, Level args items closed ∧ Gains (.sub c) items {} t ∧
        Takes c (positionals items) command := by
  constructor
  · intro h
    unfold parseSub at h
    obtain ⟨s₁, hs₁, h⟩ := bind_eq_ok_iff.mp h
    obtain ⟨s, hs, h⟩ := bind_eq_ok_iff.mp h
    obtain ⟨items, closed, t₁, hlevel, hgains, rfl⟩ :=
      finish_eq_some_iff.mp (finish_eq_some.mpr ⟨s₁, hs₁, hs⟩)
    cases c with
    | build =>
      cases h
      refine ⟨items, closed, hlevel, hgains, ?_⟩
      rw [hgains.scope.resolve_left (by simp)]
      exact .build
    | metadata =>
      cases h
      refine ⟨items, closed, hlevel, hgains, ?_⟩
      rw [hgains.scope.resolve_left (by simp)]
      exact .metadata
    | render =>
      cases hroute : t₁.route with
      | none => simp [State.resting, hroute, throw, throwThe, MonadExceptOf.throw] at h
      | some route =>
        simp only [State.resting, hroute, pure, Except.pure, Except.ok.injEq, Prod.mk.injEq] at h
        obtain ⟨rfl, rfl⟩ := h
        refine ⟨items, closed, hlevel, hgains, ?_⟩
        rw [← hgains.routeArgs_eq, routeArgs_eq_singleton_iff.mpr hroute]
        exact .render route
  · rintro ⟨items, closed, hlevel, hgains, htakes⟩
    obtain ⟨s₁, hs₁, hs⟩ :=
      finish_eq_some.mp (finish_eq_some_iff.mpr ⟨items, closed, t, hlevel, hgains, rfl⟩)
    unfold parseSub
    refine bind_eq_ok_iff.mpr ⟨s₁, hs₁, bind_eq_ok_iff.mpr ⟨_, hs, ?_⟩⟩
    rw [← hgains.routeArgs_eq] at htakes
    generalize hargs : t.routeArgs = given at htakes
    cases htakes with
    | build => rfl
    | metadata => rfl
    | render route =>
      have hroute := routeArgs_eq_singleton_iff.mp hargs
      simp [State.resting, hroute, pure, Except.pure]

lemma ofName?_eq_some_iff {arg : Bytes} {c : Subcommand} :
    Subcommand.ofName? arg = some c ↔ arg = Bytes.ofString c.name := by
  constructor
  · intro h
    have hname := List.find?_some h
    exact (of_decide_eq_true hname).symm
  · rintro rfl
    cases c <;> decide

lemma isPlain_name (c : Subcommand) : IsPlain (Bytes.ofString c.name) := by
  cases c <;> decide

lemma isPlain_of_isHelp {arg : Bytes} (h : isHelp arg = true) : IsPlain arg := by
  obtain rfl : arg = Bytes.ofString "help" := of_decide_eq_true h
  decide

lemma admitsCommand_iff : s.admitsCommand = true ↔ s.positionalOnly = false ∧ ¬ s.Waits := by
  obtain ⟨settled, pending, closed, hasRoute⟩ := s
  cases closed <;> rcases pending with _ | ⟨o, _ | v⟩ | v <;>
    simp [State.admitsCommand, State.Waits]

/-- Where a command's name may stand, a plain argument is nothing else. -/
lemma take_top_plain {arg : Bytes} (ha : s.admitsCommand = true) (hp : IsPlain arg) :
    ∃ e, take .top s arg = .error e := by
  obtain ⟨hopen, hwaits⟩ := admitsCommand_iff.mp ha
  rw [take_plain hopen hp, takePlain_of_not_waits hopen hwaits]
  exact takePositional_of_ne (by simp) s arg

/-- A command's name may stand where the options before it are complete and not closed. -/
lemma admitsCommand_of_settle {s' : State} (h : s.settle = .ok s') :
    s.admitsCommand = true ↔ s'.positionalOnly = false := by
  rw [admitsCommand_iff, (State.settle_spec h).2.1, and_iff_left_iff_imp]
  rintro - ⟨-, o, ho⟩
  simp [State.settle, ho] at h

/-- The two forms of what is left of a command line, from a state of the first level. -/
inductive Parses (s : State) (args : List Bytes) (i : Invocation) : Prop
  | bare {s' : State} (hs : finish .top s args = some s') (hi : i = merge s'.settled {} none)
  | command {front back : List Bytes} {c : Subcommand} {s' : State} {sub : Settled}
    {command : Command} (hargs : args = front ++ Bytes.ofString c.name :: back)
    (hs : finish .top s front = some s') (hopen : s'.positionalOnly = false)
    (hsub : parseSub c back = .ok (sub, command))
    (hi : i = merge s'.settled sub (some command))

section Parses

variable {arg : Bytes} {i : Invocation}

lemma parses_nil_iff : Parses s [] i ↔ ∃ s', s.settle = .ok s' ∧ i = merge s'.settled {} none := by
  constructor
  · intro h
    cases h with
    | bare hs hi => exact ⟨_, toOption_eq_some.mp hs, hi⟩
    | command hargs => simp at hargs
  · rintro ⟨s', hs, hi⟩
    exact .bare (toOption_eq_some.mpr hs) hi

/-- A plain argument where a command's name may stand is one. -/
lemma parses_plain_iff (ha : s.admitsCommand = true) (hp : IsPlain arg) :
    Parses s (arg :: args) i ↔ ∃ c s' sub command, arg = Bytes.ofString c.name ∧
      s.settle = .ok s' ∧ parseSub c args = .ok (sub, command) ∧
      i = merge s'.settled sub (some command) := by
  have hnone : ∀ args s', finish .top s (arg :: args) ≠ some s' := by
    intro args s' hs
    obtain ⟨e, he⟩ := take_top_plain ha hp
    obtain ⟨s₁, hs₁, -⟩ := finish_cons_eq_some.mp hs
    rw [he] at hs₁
    cases hs₁
  constructor
  · intro h
    cases h with
    | bare hs => exact absurd hs (hnone args _)
    | @command front _ c s' sub command hargs hs _ hsub hi =>
      rcases front with _ | ⟨first, front⟩
      · obtain ⟨rfl, rfl⟩ := List.cons.inj hargs
        exact ⟨c, s', sub, command, rfl, toOption_eq_some.mp hs, hsub, hi⟩
      · obtain ⟨rfl, -⟩ := List.cons.inj hargs
        exact absurd hs (hnone front _)
  · rintro ⟨c, s', sub, command, rfl, hs, hsub, hi⟩
    exact .command (List.nil_append _).symm (toOption_eq_some.mpr hs)
      ((admitsCommand_of_settle hs).mp ha) hsub hi

/-- Any other argument belongs to the options. -/
lemma parses_taken_iff (h : s.admitsCommand = true → ¬ IsPlain arg) :
    Parses s (arg :: args) i ↔ ∃ s₁, take .top s arg = .ok s₁ ∧ Parses s₁ args i := by
  constructor
  · intro hparses
    cases hparses with
    | bare hs hi =>
      obtain ⟨s₁, hs₁, hs⟩ := finish_cons_eq_some.mp hs
      exact ⟨s₁, hs₁, .bare hs hi⟩
    | @command front _ c _ _ _ hargs hs hopen hsub hi =>
      rcases front with _ | ⟨first, front⟩
      · obtain ⟨rfl, -⟩ := List.cons.inj hargs
        have ha := (admitsCommand_of_settle (toOption_eq_some.mp hs)).mpr hopen
        exact absurd (isPlain_name c) (h ha)
      · obtain ⟨rfl, rfl⟩ := List.cons.inj hargs
        obtain ⟨s₁, hs₁, hs⟩ := finish_cons_eq_some.mp hs
        exact ⟨s₁, hs₁, .command rfl hs hopen hsub hi⟩
  · rintro ⟨s₁, hs₁, hparses⟩
    cases hparses with
    | bare hs hi => exact .bare (finish_cons_eq_some.mpr ⟨s₁, hs₁, hs⟩) hi
    | command hargs hs hopen hsub hi =>
      refine .command ?_ (finish_cons_eq_some.mpr ⟨s₁, hs₁, hs⟩) hopen hsub hi
      rw [hargs, List.cons_append]

lemma parseFrom_plain_iff (ha : s.admitsCommand = true) (hp : IsPlain arg) :
    parseFrom s (arg :: args) = .ok i ↔ ∃ c s' sub command, arg = Bytes.ofString c.name ∧
      s.settle = .ok s' ∧ parseSub c args = .ok (sub, command) ∧
      i = merge s'.settled sub (some command) := by
  simp only [parseFrom, ha, true_and, if_true]
  -- `help` is answered before any name is looked up
  by_cases hhelp : isHelp arg = true
  · rw [if_pos hhelp]
    obtain rfl : arg = Bytes.ofString "help" := of_decide_eq_true hhelp
    refine ⟨fun h => (by cases h), ?_⟩
    rintro ⟨c, s', sub, command, hname, -⟩
    cases c <;> exact absurd hname (by decide)
  · rw [if_neg hhelp]
    cases hname : Subcommand.ofName? arg with
    | none =>
      obtain ⟨e, he⟩ := take_top_plain ha hp
      refine ⟨fun h => ?_, ?_⟩
      · rw [he] at h
        cases h
      · rintro ⟨c, s', sub, command, hc, -⟩
        rw [ofName?_eq_some_iff.mpr hc] at hname
        cases hname
    | some c =>
      obtain rfl := ofName?_eq_some_iff.mp hname
      constructor
      · intro h
        obtain ⟨⟨sub, command⟩, hsub, h⟩ := bind_eq_ok_iff.mp h
        obtain ⟨s', hs, h⟩ := bind_eq_ok_iff.mp h
        cases h
        exact ⟨c, s', sub, command, rfl, hs, hsub, rfl⟩
      · rintro ⟨c', s', sub, command, hc, hs, hsub, rfl⟩
        obtain rfl : c' = c := by
          rw [ofName?_eq_some_iff.mpr hc] at hname
          exact Option.some.inj hname
        exact bind_eq_ok_iff.mpr ⟨(sub, command), hsub, bind_eq_ok_iff.mpr ⟨s', hs, rfl⟩⟩

lemma parseFrom_taken (h : s.admitsCommand = true → ¬ IsPlain arg) :
    parseFrom s (arg :: args) = (take .top s arg).bind (parseFrom · args) := by
  -- neither an answer nor a name: both are plain arguments
  have hhelp : ¬ (s.admitsCommand = true ∧ isHelp arg = true) := fun hh =>
    h hh.1 (isPlain_of_isHelp hh.2)
  have hname : (if s.admitsCommand = true then Subcommand.ofName? arg else none) = none := by
    split_ifs with ha
    · refine Option.eq_none_iff_forall_ne_some.mpr fun c hc => h ha ?_
      rw [ofName?_eq_some_iff.mp hc]
      exact isPlain_name c
    · rfl
  rw [parseFrom, if_neg hhelp, hname]

/-- **The whole command line** is the options of the first level, or these, a command's name and
what belongs to it. -/
lemma parseFrom_eq_ok_iff : parseFrom s args = .ok i ↔ Parses s args i := by
  induction args generalizing s with
  | nil =>
    rw [parses_nil_iff, parseFrom]
    refine bind_eq_ok_iff.trans (exists_congr fun s' => and_congr_right fun _ => ?_)
    exact ⟨fun h => (Except.ok.inj h).symm, fun h => congrArg Except.ok h.symm⟩
  | cons arg args ih =>
    by_cases h : s.admitsCommand = true ∧ IsPlain arg
    · rw [parses_plain_iff h.1 h.2, parseFrom_plain_iff h.1 h.2]
    · rw [parses_taken_iff (not_and.mp h), parseFrom_taken (not_and.mp h)]
      exact bind_eq_ok_iff.trans (exists_congr fun s₁ => and_congr_right fun _ => ih)

end Parses

lemma Takes.route {c : Subcommand} {given : List Bytes} {command : Command}
    (h : Takes c given command) :
    ∃ route : Option String, given = route.toList.map Bytes.ofString ∧
      (Scope.sub c = .sub .render ∨ given = []) := by
  cases h with
  | build => exact ⟨none, rfl, .inr rfl⟩
  | metadata => exact ⟨none, rfl, .inr rfl⟩
  | render route => exact ⟨some route, rfl, .inl rfl⟩

/-- **A command line is understood** if and only if it is a sentence of the grammar, and then as
what the sentence means. -/
theorem parse_eq_ok_iff (args : List Bytes) (i : Invocation) :
    parse args = .ok i ↔ Sentence args i := by
  have hnothing : Gains .top [] {} {} := gains_nil.mpr rfl
  rw [parse, parseFrom_eq_ok_iff]
  constructor
  · intro h
    cases h with
    | bare hs hi =>
      obtain ⟨items, closed, t, hlevel, hgains, rfl⟩ := finish_eq_some_iff.mp hs
      rw [hi, State.settled_resting, merge_eq_meaning hgains hnothing]
      exact .bare hlevel (hgains.scope.resolve_left (by simp)) hgains.once
    | command hargs hs hopen hsub hi =>
      obtain ⟨top, closed, t, hlevel, hgains, rfl⟩ := finish_eq_some_iff.mp hs
      obtain ⟨sub, closed', hlevel', hgains', htakes⟩ := parseSub_eq_ok_iff.mp hsub
      obtain rfl : closed = false := hopen
      rw [hargs, hi, State.settled_resting, merge_eq_meaning hgains hgains']
      exact .command hlevel (hgains.scope.resolve_left (by simp)) hgains.once hlevel' hgains'.once
        htakes
  · intro h
    cases h with
    | bare hlevel hp ho =>
      have hgains := gains_of_once .top ho none hp (.inr hp)
      refine .bare (finish_eq_some_iff.mpr ⟨_, _, _, hlevel, hgains, rfl⟩) ?_
      rw [State.settled_resting, merge_eq_meaning hgains hnothing]
    | command htop hp ho hsub ho' ht =>
      obtain ⟨route, hroute, hscope⟩ := ht.route
      have hgains := gains_of_once .top ho none hp (.inr hp)
      have hgains' := gains_of_once (.sub _) ho' route hroute hscope
      refine .command rfl (finish_eq_some_iff.mpr ⟨_, _, _, htop, hgains, rfl⟩) rfl
        (parseSub_eq_ok_iff.mpr ⟨_, _, hsub, hgains', ht⟩) ?_
      rw [State.settled_resting, merge_eq_meaning hgains hgains']

example : parse (["-vo=site", "render", "--config", "a.json", "--", "-x"].map Bytes.ofString) =
    .ok ⟨some (Bytes.ofString "a.json"), some (Bytes.ofString "site"), true,
      some (.render "-x")⟩ := by
  decide +kernel

end StaticHost.CommandLine
