import ErDiagram.Proofs.Diagram.OptionMap

set_option autoImplicit false

/-!
# The laws of laying offers over an option map

A map is built from names and offers, and offers are laid over it any number of times.  Its names are
then distinct and its values of the declared types.  Offers for it come under distinct names, and they
are accepted exactly if each of them is a value of the declared type under a name of the map.  Otherwise
something of a wrong type for a name of the map is reported, wherever it stands among the offers, and a
name that the map does not have is reported only if there is no such thing.  A map is a value: whatever
becomes of the offers, it stays as it is.
-/

namespace ErDiagram

/-- What is offered is a value of exactly the type that the name declares. -/
def Offer.Fits (offer : Offer) (name : OptionName) : Prop :=
  ∃ v, offer = .value v ∧ v.type = name.type

/-- Offers under distinct names, to be laid over a map together. -/
structure Overlay where
  offers : List (OptionName × Offer)
  nodup : (offers.map (·.1)).Nodup

/-- An overlay with another one laid over it. -/
def Overlay.overlaidBy (a b : Overlay) : Overlay :=
  ⟨Table.putAll b.offers a.offers, Table.nodup_keys_putAll a.nodup⟩

namespace OptionMap

/-- The map has been built, and offers have been laid over it any number of times. -/
inductive Reachable : OptionMap → Prop where
  | build {names : List OptionName} {offers : List (OptionName × Offer)} {m : OptionMap}
      (h : OptionMap.build names offers = .ok m) : Reachable m
  | updated {m m' : OptionMap} {offers : List (OptionName × Offer)} (hm : Reachable m)
      (h : m.updated offers = .ok m') : Reachable m'

/-- The names are distinct, and each has a value of the type that it declares. -/
structure WellTyped (m : OptionMap) : Prop where
  nodup : m.names.Nodup
  typedFor : m.TypedFor m.names

/-- The map has the name, and what is offered for it is a value of its type. -/
def Welcomes (m : OptionMap) (o : OptionName × Offer) : Prop := o.1 ∈ m.names ∧ o.2.Fits o.1

/-- How an offer that is not welcome is refused. -/
def refusal (m : OptionMap) (o : OptionName × Offer) : OptionFault :=
  if o.1 ∈ m.names then .wrongType o.1 o.2.type else .unknownName o.1

variable {m m' : OptionMap} {o : OptionName × Offer} {offers : List (OptionName × Offer)}

/-! ## Reachable maps -/

theorem TypedFor.wellTyped {names : List OptionName} (hnodup : names.Nodup)
    (h : m.TypedFor names) : m.WellTyped :=
  ⟨h.names_eq.symm ▸ hnodup, rfl, h.typed⟩

/-- The defaults of names are well-typed, also if a name is given twice. -/
theorem wellTyped_ofNames (names : List OptionName) : (ofNames names).WellTyped := by
  refine ⟨Table.nodup_keys_putAll List.nodup_nil, rfl, fun entry hentry => ?_⟩
  rcases Table.mem_putAll hentry with hdefault | hnil
  · obtain ⟨n, -, rfl⟩ := List.mem_map.mp hdefault
    exact type_default n
  · cases hnil

theorem Reachable.wellTyped (h : m.Reachable) : m.WellTyped := by
  induction h with
  | @build names offers m h =>
    have hdefaults := wellTyped_ofNames names
    exact (hdefaults.typedFor.acceptAll h).wellTyped hdefaults.nodup
  | updated _ h ih => exact (ih.typedFor.updated ih.nodup h).wellTyped ih.nodup

/-! ## Offers one after the other -/

theorem accept_of_welcomes (h : m.Welcomes o) :
    ∃ m', m.accept o.1 o.2 = .ok m' ∧ m'.names = m.names := by
  obtain ⟨hname, v, hv, htype⟩ := h
  exact ⟨_, accept_eq_ok.mpr ⟨hname, v, hv, htype, rfl⟩, Table.keys_put_of_mem hname⟩

theorem accept_of_not_welcomes (h : ¬ m.Welcomes o) : m.accept o.1 o.2 = .error (m.refusal o) := by
  obtain ⟨name, offer⟩ := o
  unfold accept refusal
  by_cases hname : name ∈ m.names
  · cases offer with
    | foreign t => simp [hname, Offer.type]
    | value v =>
      have htype : v.type ≠ name.type := fun htype => h ⟨hname, v, rfl, htype⟩
      simp [hname, htype, Offer.type]
  · simp [hname]

/-- All offers are welcome and accepted, or the first one that is not welcome is refused. -/
theorem acceptAll_cases (offers : List (OptionName × Offer)) : ∀ m : OptionMap,
    (∀ o ∈ offers, m.Welcomes o) ∧ (∃ m', m.acceptAll offers = .ok m') ∨
      ∃ front o back, offers = front ++ o :: back ∧ (∀ p ∈ front, m.Welcomes p) ∧
        ¬ m.Welcomes o ∧ m.acceptAll offers = .error (m.refusal o) := by
  induction offers with
  | nil => exact fun m => .inl ⟨nofun, m, rfl⟩
  | cons first rest ih =>
    intro m
    by_cases hfirst : m.Welcomes first
    · obtain ⟨next, haccept, hnames⟩ := accept_of_welcomes hfirst
      have hwelcomes : ∀ o, next.Welcomes o ↔ m.Welcomes o := fun o => by
        rw [Welcomes, Welcomes, hnames]
      have hstep : m.acceptAll (first :: rest) = next.acceptAll rest := by
        rw [acceptAll, haccept]
      rw [hstep]
      rcases ih next with ⟨hrest, haccepted⟩ | ⟨front, o, back, rfl, hfront, ho, hrefused⟩
      · exact .inl ⟨List.forall_mem_cons.mpr ⟨hfirst, fun o h => (hwelcomes o).mp (hrest o h)⟩,
          haccepted⟩
      · refine .inr ⟨first :: front, o, back, rfl, ?_, fun h => ho ((hwelcomes o).mpr h), ?_⟩
        · exact List.forall_mem_cons.mpr ⟨hfirst, fun p h => (hwelcomes p).mp (hfront p h)⟩
        · rw [hrefused, refusal, refusal, hnames]
    · refine .inr ⟨[], first, rest, rfl, nofun, hfirst, ?_⟩
      rw [acceptAll, accept_of_not_welcomes hfirst]

/-! ## What is laid over a map -/

/-- The present values, with the offers over them, and behind them the offers for other names. -/
theorem exists_overlaid_eq_append (m : OptionMap) (offers : List (OptionName × Offer)) :
    ∃ own others, m.overlaid offers = own ++ others ∧ own.map (·.1) = m.names ∧
      ∀ o ∈ others, o.1 ∉ m.names := by
  have hkeys : (m.entries.map fun e => (e.1, Offer.value e.2)).map (·.1) = m.names := by
    rw [List.map_map]
    rfl
  have hsplit := Table.exists_putAll_eq_append offers (m.entries.map fun e => (e.1, Offer.value e.2))
  rwa [hkeys] at hsplit

/-- What is laid over a map was there or is offered. -/
theorem mem_overlaid (h : o ∈ m.overlaid offers) :
    o ∈ offers ∨ ∃ e ∈ m.entries, o = (e.1, .value e.2) := by
  refine (Table.mem_putAll h).imp_right fun hown => ?_
  obtain ⟨e, he, rfl⟩ := List.mem_map.mp hown
  exact ⟨e, he, rfl⟩

/-- Every offer under distinct names is laid over the map. -/
theorem mem_overlaid_of_mem (hoffers : (offers.map (·.1)).Nodup) (ho : o ∈ offers) :
    o ∈ m.overlaid offers := by
  have hfound : (m.overlaid offers).lookup o.1 = some o.2 := by
    rw [overlaid, ← Table.putAll, Table.lookup_putAll, Table.lookup_reverse hoffers,
      Table.lookup_eq_some_of_mem hoffers ho]
    rfl
  exact Table.mem_of_lookup_eq_some hfound

/-- Offers for names of the map stand in front of what is refused for its name. -/
theorem mem_front_of_refused {front back : List (OptionName × Offer)} {p : OptionName × Offer}
    (hsplit : m.overlaid offers = front ++ o :: back) (ho : o.1 ∉ m.names)
    (hp : p ∈ m.overlaid offers) (hname : p.1 ∈ m.names) : p ∈ front := by
  obtain ⟨own, others, heq, hkeys, hothers⟩ := m.exists_overlaid_eq_append offers
  have hown : p ∈ own := by
    rw [heq] at hp
    exact (List.mem_append.mp hp).resolve_right fun hother => hothers p hother hname
  have hforeign : o ∉ own := fun hmem => ho (hkeys ▸ List.mem_map_of_mem hmem)
  rcases List.append_eq_append_iff.mp (heq.symm.trans hsplit) with
    ⟨more, rfl, -⟩ | ⟨more, rfl, hmore⟩
  · exact List.mem_append_left _ hown
  · cases more with
    | nil => simpa using hown
    | cons q more =>
      obtain ⟨rfl, -⟩ := List.cons.inj hmore
      exact absurd (List.mem_append_right _ List.mem_cons_self) hforeign

/-! ## Offers that are accepted and offers that are refused -/

/-- Offers are all welcome and accepted; or one for a name of the map does not fit, and such a one is
refused; or those for names of the map fit, and one for another name is refused. -/
theorem WellTyped.updated_cases (hm : m.WellTyped) (hoffers : (offers.map (·.1)).Nodup) :
    (∀ o ∈ offers, m.Welcomes o) ∧ (∃ m', m.updated offers = .ok m') ∨
      (∃ o ∈ offers, o.1 ∈ m.names ∧ ¬ o.2.Fits o.1 ∧
        m.updated offers = .error (.wrongType o.1 o.2.type)) ∨
      (∀ o ∈ offers, o.1 ∈ m.names → o.2.Fits o.1) ∧
        ∃ o ∈ offers, o.1 ∉ m.names ∧ m.updated offers = .error (.unknownName o.1) := by
  have hdefaults : (ofNames m.names).names = m.names := names_ofNames hm.nodup
  have hwelcomes : ∀ o, (ofNames m.names).Welcomes o ↔ m.Welcomes o := fun o => by
    rw [Welcomes, Welcomes, hdefaults]
  -- the values that are there fit, so what is not welcome is one of the offers
  have hoffered : ∀ o ∈ m.overlaid offers, ¬ m.Welcomes o → o ∈ offers := by
    intro o ho hnot
    refine (mem_overlaid ho).resolve_right ?_
    rintro ⟨e, he, rfl⟩
    exact hnot ⟨List.mem_map_of_mem he, e.2, rfl, hm.typedFor.typed e he⟩
  rcases acceptAll_cases (m.overlaid offers) (ofNames m.names) with
    ⟨hall, haccepted⟩ | ⟨front, o, back, hsplit, hfront, ho, hrefused⟩
  · refine .inl ⟨fun o ho => ?_, haccepted⟩
    exact (hwelcomes o).mp (hall o (mem_overlaid_of_mem hoffers ho))
  · rw [hwelcomes] at ho
    have hmem : o ∈ offers := hoffered o (by simp [hsplit]) ho
    rw [refusal, hdefaults] at hrefused
    by_cases hname : o.1 ∈ m.names
    · rw [if_pos hname] at hrefused
      exact .inr (.inl ⟨o, hmem, hname, fun hfits => ho ⟨hname, hfits⟩, hrefused⟩)
    · rw [if_neg hname] at hrefused
      refine .inr (.inr ⟨fun p hp hown => ?_, o, hmem, hname, hrefused⟩)
      have hpfront := mem_front_of_refused hsplit hname (mem_overlaid_of_mem hoffers hp) hown
      exact ((hwelcomes p).mp (hfront p hpfront)).2

/-- Welcome offers are values of the declared types. -/
theorem exists_values_of_welcomes (h : ∀ o ∈ offers, m.Welcomes o) :
    ∃ values : List (OptionName × OptionValue), offers = values.map (fun e => (e.1, .value e.2)) ∧
      ∀ e ∈ values, e.1 ∈ m.names ∧ e.2.type = e.1.type := by
  induction offers with
  | nil => exact ⟨[], rfl, nofun⟩
  | cons first rest ih =>
    obtain ⟨⟨hname, v, hv, htype⟩, hrest⟩ := List.forall_mem_cons.mp h
    obtain ⟨values, rfl, hvalues⟩ := ih hrest
    refine ⟨(first.1, v) :: values, ?_, List.forall_mem_cons.mpr ⟨⟨hname, htype⟩, hvalues⟩⟩
    rw [List.map_cons, ← hv]

/-- Offers are accepted exactly if all are welcome. -/
theorem WellTyped.updated_isOk_iff (hm : m.WellTyped) (hoffers : (offers.map (·.1)).Nodup) :
    (∃ m', m.updated offers = .ok m') ↔ ∀ o ∈ offers, m.Welcomes o := by
  constructor
  · rintro ⟨m', h⟩
    rcases hm.updated_cases hoffers with ⟨hall, -⟩ | ⟨o, -, -, -, herror⟩ | ⟨-, o, -, -, herror⟩
    · exact hall
    · cases h.symm.trans herror
    · cases h.symm.trans herror
  · intro h
    obtain ⟨values, rfl, hvalues⟩ := exists_values_of_welcomes h
    exact ⟨_, hm.typedFor.updated_values hm.nodup hvalues⟩

/-- What is accepted are values of the declared types, and they are put over those of the map. -/
theorem WellTyped.updated_eq_ok (hm : m.WellTyped) (hoffers : (offers.map (·.1)).Nodup)
    (h : m.updated offers = .ok m') :
    ∃ values, offers = values.map (fun e => (e.1, .value e.2)) ∧ (values.map (·.1)).Nodup ∧
      (∀ e ∈ values, e.1 ∈ m.names ∧ e.2.type = e.1.type) ∧ m' = m.assign values := by
  obtain ⟨values, rfl, hvalues⟩ :=
    exists_values_of_welcomes ((hm.updated_isOk_iff hoffers).mp ⟨m', h⟩)
  rw [hm.typedFor.updated_values hm.nodup hvalues, Except.ok.injEq] at h
  rw [List.map_map] at hoffers
  exact ⟨values, rfl, hoffers, hvalues, h.symm⟩

theorem lookup_map_value (values : List (OptionName × OptionValue)) (name : OptionName) :
    (values.map fun e => (e.1, Offer.value e.2)).lookup name =
      (values.lookup name).map Offer.value := by
  induction values with
  | nil => rfl
  | cons first rest ih =>
    rw [List.map_cons, Table.lookup_cons, Table.lookup_cons, ih]
    split <;> rfl

/-- Values put over a map in two goes are put over it in one, those of the second over the first. -/
theorem WellTyped.assign_assign (hm : m.WellTyped) {first second : List (OptionName × OptionValue)}
    (hdistinct : (first.map (·.1)).Nodup)
    (hfirst : ∀ e ∈ first, e.1 ∈ m.names ∧ e.2.type = e.1.type)
    (hsecond : ∀ e ∈ second, e.1 ∈ m.names ∧ e.2.type = e.1.type) :
    (m.assign first).assign second = m.assign (Table.putAll second first) := by
  have hboth : ∀ e ∈ Table.putAll second first, e.1 ∈ m.names ∧ e.2.type = e.1.type := fun e he =>
    (Table.mem_putAll he).elim (hsecond e) (hfirst e)
  have hinTwo : ((m.assign first).assign second).names = m.names :=
    ((hm.typedFor.assign hfirst).assign hsecond).names_eq
  have hinOne : (m.assign (Table.putAll second first)).names = m.names :=
    (hm.typedFor.assign hboth).names_eq
  refine congrArg OptionMap.mk (Table.ext_lookup (hinTwo.trans hinOne.symm) ?_ fun name => ?_)
  · exact Eq.mpr (congrArg List.Nodup hinTwo) hm.nodup
  · change ((m.assign first).assign second).get? name =
      (m.assign (Table.putAll second first)).get? name
    rw [get?_assign, get?_assign, get?_assign,
      Table.lookup_reverse (Table.nodup_keys_putAll hdistinct), Table.lookup_putAll,
      Table.lookup_reverse hdistinct, Option.or_assoc]

/-- What two overlays, one after the other, make of a map, the second laid over the first makes of it. -/
theorem WellTyped.updated_overlaidBy (hm : m.WellTyped) {a b : Overlay} {m₁ m₂ : OptionMap}
    (ha : m.updated a.offers = .ok m₁) (hb : m₁.updated b.offers = .ok m₂) :
    m.updated (a.overlaidBy b).offers = .ok m₂ := by
  obtain ⟨first, hfirst, hdistinct, hfirstFits, rfl⟩ := hm.updated_eq_ok a.nodup ha
  have hassigned : (m.assign first).TypedFor m.names := hm.typedFor.assign hfirstFits
  obtain ⟨second, hsecond, -, hsecondFits, rfl⟩ :=
    (hassigned.wellTyped hm.nodup).updated_eq_ok b.nodup hb
  rw [hassigned.names_eq] at hsecondFits
  have hboth : (a.overlaidBy b).offers =
      (Table.putAll second first).map fun e => (e.1, Offer.value e.2) := by
    rw [← overlaid_values ⟨first⟩ second, ← hsecond, OptionMap.overlaid, ← hfirst]
    rfl
  rw [hboth, hm.assign_assign hdistinct hfirstFits hsecondFits]
  refine hm.typedFor.updated_values hm.nodup fun e he => ?_
  exact (Table.mem_putAll he).elim (hsecondFits e) (hfirstFits e)

/-! ## The laws -/

/-- What holds whenever offers are laid over the map. -/
structure OverlayLaws (m : OptionMap) : Prop where
  /-- every value has the type that its name declares -/
  typed : ∀ e ∈ m.entries, e.2.type = e.1.type
  /-- offers are accepted exactly if each is a value of the declared type under a name of the map -/
  accepted_iff : ∀ o : Overlay,
    (∃ m', m.updated o.offers = .ok m') ↔ ∀ p ∈ o.offers, p.1 ∈ m.names ∧ p.2.Fits p.1
  /-- the names stay in their order, and under each name what is offered lies over what was there -/
  result : ∀ (o : Overlay) (m' : OptionMap), m.updated o.offers = .ok m' → m'.names = m.names ∧
    ∀ name, (m'.get? name).map Offer.value =
      (o.offers.lookup name).or ((m.get? name).map Offer.value)
  /-- something of a wrong type for a name of the map is refused for its type, whatever else there is -/
  wrong_type : ∀ o : Overlay, (∃ p ∈ o.offers, p.1 ∈ m.names ∧ ¬ p.2.Fits p.1) →
    ∃ p ∈ o.offers, p.1 ∈ m.names ∧ ¬ p.2.Fits p.1 ∧
      m.updated o.offers = .error (.wrongType p.1 p.2.type)
  /-- a name that the map does not have is refused if nothing else is wrong -/
  unknown_name : ∀ o : Overlay, (∀ p ∈ o.offers, p.1 ∈ m.names → p.2.Fits p.1) →
    (∃ p ∈ o.offers, p.1 ∉ m.names) →
      ∃ p ∈ o.offers, p.1 ∉ m.names ∧ m.updated o.offers = .error (.unknownName p.1)
  /-- a flag is not accepted as a number -/
  flag_refused : ∀ (o : Overlay) (name : OptionName) (b : Bool), name.type = .whole →
    (name, .value (.flag b)) ∈ o.offers → ¬ ∃ m', m.updated o.offers = .ok m'
  /-- two overlays, one after the other, are one -/
  composed : ∀ (a b : Overlay) (m₁ m₂ : OptionMap), m.updated a.offers = .ok m₁ →
    m₁.updated b.offers = .ok m₂ → m.updated (a.overlaidBy b).offers = .ok m₂

/-- The laws hold of every map that is built and of every map that comes about by laying offers over
one. -/
theorem overlayLaws_of_reachable (h : m.Reachable) : m.OverlayLaws := by
  have hm := h.wellTyped
  constructor
  case typed => exact hm.typedFor.typed
  case accepted_iff => exact fun o => hm.updated_isOk_iff o.nodup
  case result =>
    intro o m' h'
    obtain ⟨values, hvalues, hdistinct, hfits, rfl⟩ := hm.updated_eq_ok o.nodup h'
    refine ⟨(hm.typedFor.assign hfits).names_eq, fun name => ?_⟩
    rw [get?_assign, Table.lookup_reverse hdistinct, hvalues, lookup_map_value, Option.map_or]
  case wrong_type =>
    rintro o ⟨p, hp, hname, hnot⟩
    rcases hm.updated_cases o.nodup with ⟨hall, -⟩ | hwrong | ⟨hfit, -⟩
    · exact absurd (hall p hp).2 hnot
    · exact hwrong
    · exact absurd (hfit p hp hname) hnot
  case unknown_name =>
    rintro o hfit ⟨p, hp, hname⟩
    rcases hm.updated_cases o.nodup with ⟨hall, -⟩ | ⟨q, hq, hown, hnot, -⟩ | ⟨-, hunknown⟩
    · exact absurd (hall p hp).1 hname
    · exact absurd (hfit q hq hown) hnot
    · exact hunknown
  case flag_refused =>
    intro o name b htype hp h'
    obtain ⟨-, v, hv, hflag⟩ := (hm.updated_isOk_iff o.nodup).mp h' _ hp
    cases hv
    rw [htype] at hflag
    cases hflag
  case composed => exact fun a b m₁ m₂ ha hb => hm.updated_overlaidBy ha hb

/-- A map of two options, one of which was named twice, with a size laid over its default. -/
def sizedMap : OptionMap := ⟨[(.titleSize, .whole 14), (.title, .text [])]⟩

/-- A flag for the size is refused for its type, although a name that the map does not have stands in
front of it. -/
theorem overlayLaws_sizedMap : sizedMap.Reachable ∧ sizedMap.OverlayLaws ∧
    sizedMap.updated [(.mark, .value (.text [])), (.titleSize, .value (.flag true))] =
      .error (.wrongType .titleSize .flag) := by
  have hbuilt : OptionMap.build [.titleSize, .title, .titleSize] [] =
      .ok ⟨[(.titleSize, .whole 12), (.title, .text [])]⟩ := rfl
  have hsized : OptionMap.updated ⟨[(.titleSize, .whole 12), (.title, .text [])]⟩
      [(.titleSize, .value (.whole 14))] = .ok sizedMap := by decide +kernel
  have hreachable : sizedMap.Reachable := .updated (.build hbuilt) hsized
  exact ⟨hreachable, overlayLaws_of_reachable hreachable, by decide +kernel⟩

end OptionMap

end ErDiagram
