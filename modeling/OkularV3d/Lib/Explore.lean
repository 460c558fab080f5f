import Mathlib.Tactic.IntervalCases
import OkularV3d.Lib.Chunks
import OkularV3d.Lib.Handles

/-!
# All runs of a program over handles

What is known of a store is written as a table of small sets (`OkularV3d.Lib.Chunks`). A `Layout`
gives each variable a group and a place in it, and each flag a group of its own; the entry of a
group has the tuples of values that its variables may have, so that variables whose values go
together share a group.

`explore` runs a program on what is known, for every answer of the environment at once, and keeps
for each way of leaving it the tables of the stores it can be left with. Tables that agree on the
groups of `keys` are united. `exists_exit` is its soundness: where it succeeds, no run misuses a
variable.

* `Layout.Shows` relates a table to the stores it stands for.
* `Shows.act` is the step lemma for one operation, and `within_of_explore` the soundness of the
  exploration by induction on the program, with one case for each way to put programs together.
* `exists_exit` is what a client uses: `explore` is evaluated, and every run is covered.
-/

namespace OkularV3d.Handles

open Chunks

/-! ### Tuples of values -/

/-- The digit of a value. -/
def Slot.digit : Slot → Nat
  | .unset => 0
  | .null => 1
  | .live => 2
  | .dangling => 3

/-- The value with a digit. -/
def Slot.ofDigit : Nat → Slot
  | 0 => .unset
  | 1 => .null
  | 2 => .live
  | _ => .dangling

/-- The value at the place `p` of the tuple `t`. -/
def slotAt (p t : Nat) : Slot := .ofDigit (t / 4 ^ p % 4)

/-- The tuple `t` with the value at the place `p` replaced. -/
def withSlot (p : Nat) (slot : Slot) (t : Nat) : Nat :=
  t - t / 4 ^ p % 4 * 4 ^ p + slot.digit * 4 ^ p

section Tuples

variable {p q t : Nat}

theorem digit_lt (slot : Slot) : slot.digit < 4 := by cases slot <;> decide

/-- A value is found again from its digit. -/
theorem ofDigit_digit (slot : Slot) : .ofDigit slot.digit = slot := by cases slot <;> rfl

/-- A place that is replaced has the new value. -/
theorem slotAt_withSlot_self (hp : p < 3) (t : Nat) (slot : Slot) :
    slotAt p (withSlot p slot t) = slot := by
  have hdigit := digit_lt slot
  have hplace : withSlot p slot t / 4 ^ p % 4 = slot.digit := by
    rw [withSlot]
    interval_cases p <;> omega
  rw [slotAt, hplace, ofDigit_digit]

/-- The other two places keep theirs. -/
theorem slotAt_withSlot_of_ne (hp : p < 3) (hq : q < 3) (hne : q ≠ p) (ht : t < 64) (slot : Slot) :
    slotAt q (withSlot p slot t) = slotAt q t := by
  have hdigit := digit_lt slot
  have hplace : withSlot p slot t / 4 ^ q % 4 = t / 4 ^ q % 4 := by
    rw [withSlot]
    interval_cases p <;> interval_cases q <;> omega
  rw [slotAt, slotAt, hplace]

/-- A tuple stays one of the 64. -/
theorem withSlot_lt (hp : p < 3) (ht : t < 64) (slot : Slot) : withSlot p slot t < 64 := by
  have hdigit := digit_lt slot
  rw [withSlot]
  interval_cases p <;> omega

end Tuples

/-! ### Tables of stores -/

/-- Where the variables and the flags stand in a table. -/
structure Layout (H F : Type) where
  group : H → Nat
  place : H → Nat
  flag : F → Nat
  /-- The groups by which tables are kept apart. -/
  keys : Nat
  place_lt : ∀ h, place h < 3
  eq_of_place : ∀ h h', group h = group h' → place h = place h' → h = h'
  eq_of_flag : ∀ f f', flag f = flag f' → f = f'
  flag_ne_group : ∀ f h, flag f ≠ group h

/-- All results of a partial function on a list. -/
def allOf {α β : Type} (f : α → Option β) : List α → Option (List β)
  | [] => some []
  | a :: as => (f a).bind fun b => (allOf f as).map (b :: ·)

/-- Where all results are defined, each of them is among them. -/
theorem exists_of_allOf {α β : Type} {f : α → Option β} {as : List α} {bs : List β}
    (h : allOf f as = some bs) {a : α} (ha : a ∈ as) : ∃ b ∈ bs, f a = some b := by
  induction as generalizing bs with
  | nil => cases ha
  | cons a' as ih =>
    obtain ⟨b, hb, hrest⟩ := Option.bind_eq_some_iff.mp h
    obtain ⟨bs', hbs', rfl⟩ := Option.map_eq_some_iff.mp hrest
    obtain rfl | ha := List.mem_cons.mp ha
    · exact ⟨b, List.mem_cons_self .., hb⟩
    · obtain ⟨c, hc, hfc⟩ := ih hbs' ha
      exact ⟨c, List.mem_cons_of_mem _ hc, hfc⟩

namespace Layout

variable {H F I : Type} (L : Layout H F)

/-- The table `S` shows the store `s`: each group has the tuple of the values of its variables, and
each flag its value. -/
structure Shows (S : Nat) (s : Store H F) : Prop where
  held : ∀ h, ∃ t, (chunk (L.group h) S).testBit t = true ∧
    ∀ h', L.group h' = L.group h → slotAt (L.place h') t = s.held h'
  flag : ∀ f, (chunk (L.flag f) S).testBit (s.flag f).toNat = true

/-- The tuples of the group of `h`. -/
def tuples (h : H) (S : Nat) : List Nat := members 64 (chunk (L.group h) S)

/-- The table after an operation; `none` where it misuses the variable in some store shown. -/
def act (o : Op) (h : H) (S : Nat) : Option Nat :=
  (allOf (fun t =>
    match o.apply (slotAt (L.place h) t) with
    | .ok slot => some (withSlot (L.place h) slot t)
    | .error _ => none) (L.tuples h S)).map fun ts => setChunk (L.group h) S (ofMembers ts)

/-- The stores of `S` in which `h` has a value with `P`, if there are any. -/
def restrict (P : Slot → Bool) (h : H) (S : Nat) : List Nat :=
  match (L.tuples h S).filter fun t => P (slotAt (L.place h) t) with
  | [] => []
  | ts => [setChunk (L.group h) S (ofMembers ts)]

/-- The stores of the tables in which each of the variables has a value with `P`. -/
def restrictAll (P : Slot → Bool) (hs : List H) (as : List Nat) : List Nat :=
  hs.foldl (fun as h => as.flatMap (L.restrict P h)) as

/-- The table with the flag `f` set to `b`. -/
def setFlag (f : F) (b : Bool) (S : Nat) : Nat := setChunk (L.flag f) S (2 ^ b.toNat)

/-- The stores of `S` in which a test may have the value `b`, where the environment gives the known
answers `may`. -/
def assume (may : I → Option Bool) : Bool → Cond H F I → Nat → List Nat
  | b, .flag f, S => if (chunk (L.flag f) S).testBit b.toNat then [L.setFlag f b S] else []
  | b, .isSet h, S => L.restrict (fun slot => (slot != .null) == b) h S
  | b, .ask i, S => if may i = some (!b) then [] else [S]
  | b, .not c, S => assume may (!b) c S
  | true, .and c d, S => (assume may true c S).flatMap (assume may true d)
  | false, .and c d, S =>
    assume may false c S ++ (assume may true c S).flatMap (assume may false d)
  | true, .or c d, S =>
    assume may true c S ++ (assume may false c S).flatMap (assume may true d)
  | false, .or c d, S => (assume may false c S).flatMap (assume may false d)

/-- A table more, united with one of the same keys. -/
def insert (S : Nat) : List Nat → List Nat
  | [] => [S]
  | S' :: as => if (S &&& L.keys) == (S' &&& L.keys) then (S ||| S') :: as else S' :: insert S as

/-- All tables of both lists. -/
def merge (as bs : List Nat) : List Nat := as.foldr L.insert bs

end Layout

/-- The tables of the stores a program can be left with, for each way of leaving it. -/
structure Outs where
  done : List Nat
  threw : List Nat
  returned : List Nat

/-- The tables for one way of leaving. -/
def Outs.exits (o : Outs) : Exit → List Nat
  | .done => o.done
  | .threw => o.threw
  | .returned => o.returned

namespace Layout

section Explore

variable {H F I : Type} (L : Layout H F)

/-- The exits of either. -/
def union (o o' : Outs) : Outs :=
  ⟨L.merge o.done o'.done, L.merge o.threw o'.threw, L.merge o.returned o'.returned⟩

/-- The exits from tables there are none of. -/
def ifAny (as : List Nat) (f : List Nat → Option Outs) : Option Outs :=
  match as with
  | [] => some ⟨[], [], []⟩
  | _ => f as

/-- All exits of a program from the stores of the tables `as`; `none` where some run misuses a
variable. -/
def explore (may : I → Option Bool) : Prog H F I → List Nat → Option Outs
  | .skip, as => some ⟨as, [], []⟩
  | .throw, as => some ⟨[], as, []⟩
  | .ret, as => some ⟨[], [], as⟩
  | .op o h, as => (allOf (L.act o h) as).map fun bs => ⟨bs, [], []⟩
  | .setFlag f b, as => some ⟨L.merge (as.map (L.setFlag f b)) [], [], []⟩
  | .branch c p q, as =>
    (ifAny (L.merge (as.flatMap (L.assume may true c)) []) (explore may p)).bind fun o =>
      (ifAny (L.merge (as.flatMap (L.assume may false c)) []) (explore may q)).map (L.union o)
  | .seq p q, as =>
    (explore may p as).bind fun o =>
      (ifAny o.done (explore may q)).map (L.union ⟨[], o.threw, o.returned⟩)
  | .attempt p q, as =>
    (explore may p as).bind fun o =>
      (ifAny o.threw (explore may q)).map (L.union ⟨o.done, [], o.returned⟩)
  | .call p q, as =>
    (explore may p as).bind fun o =>
      (ifAny o.returned (explore may q)).map (L.union ⟨o.done, o.threw, []⟩)

end Explore

/-! ### Soundness -/

section Shows

variable {H F : Type} {L : Layout H F} {S S' : Nat} {s : Store H F}

/-- A larger table shows more stores. -/
theorem Shows.lor_left (h : L.Shows S s) (S' : Nat) : L.Shows (S ||| S') s where
  held g := by
    obtain ⟨t, ht, heq⟩ := h.held g
    refine ⟨t, ?_, heq⟩
    rw [chunk_lor, Nat.testBit_or, ht, Bool.true_or]
  flag f := by rw [chunk_lor, Nat.testBit_or, h.flag f, Bool.true_or]

theorem Shows.lor_right (h : L.Shows S s) (S' : Nat) : L.Shows (S' ||| S) s := by
  rw [Nat.or_comm]
  exact h.lor_left S'

/-- A table with more tuples shows the same stores. -/
theorem Shows.mono (h : L.Shows S s) (hle : S ||| S' = S') : L.Shows S' s := by
  rw [← hle]
  exact h.lor_left S'

/-- One of the tables shows the store. -/
def ShowsAny (L : Layout H F) (as : List Nat) (s : Store H F) : Prop := ∃ S ∈ as, L.Shows S s

/-- Uniting tables of the same keys loses no store. -/
theorem showsAny_insert {as : List Nat} (h : L.Shows S s ∨ L.ShowsAny as s) :
    L.ShowsAny (L.insert S as) s := by
  induction as with
  | nil =>
    obtain h | ⟨_, hmem, _⟩ := h
    · exact ⟨S, List.mem_cons_self .., h⟩
    · cases hmem
  | cons S' as ih =>
    rw [insert]
    split_ifs
    · obtain h | ⟨S₁, hmem, h⟩ := h
      · exact ⟨_, List.mem_cons_self .., h.lor_left S'⟩
      · obtain rfl | hmem := List.mem_cons.mp hmem
        · exact ⟨_, List.mem_cons_self .., h.lor_right S⟩
        · exact ⟨S₁, List.mem_cons_of_mem _ hmem, h⟩
    · obtain h | ⟨S₁, hmem, h⟩ := h
      · obtain ⟨S₂, hmem₂, h₂⟩ := ih (.inl h)
        exact ⟨S₂, List.mem_cons_of_mem _ hmem₂, h₂⟩
      · obtain rfl | hmem := List.mem_cons.mp hmem
        · exact ⟨S₁, List.mem_cons_self .., h⟩
        · obtain ⟨S₂, hmem₂, h₂⟩ := ih (.inr ⟨S₁, hmem, h⟩)
          exact ⟨S₂, List.mem_cons_of_mem _ hmem₂, h₂⟩

/-- Nor does merging two lists of tables. -/
theorem showsAny_merge {as bs : List Nat} (h : L.ShowsAny as s ∨ L.ShowsAny bs s) :
    L.ShowsAny (L.merge as bs) s := by
  induction as with
  | nil =>
    obtain ⟨_, hmem, _⟩ | h := h
    · cases hmem
    · exact h
  | cons S as ih =>
    refine showsAny_insert ?_
    obtain ⟨S₁, hmem, h⟩ | h := h
    · obtain rfl | hmem := List.mem_cons.mp hmem
      · exact .inl h
      · exact .inr (ih (.inl ⟨S₁, hmem, h⟩))
    · exact .inr (ih (.inr h))

/-- The entry of one group is replaced by one that has a tuple of the new store. -/
theorem Shows.setGroup (h : L.Shows S s) {s' : Store H F} {x : H} {c t : Nat} (hlt : t < 64)
    (hc : c.testBit t = true)
    (hgroup : ∀ g, L.group g = L.group x → slotAt (L.place g) t = s'.held g)
    (hrest : ∀ g, L.group g ≠ L.group x → s'.held g = s.held g) (hflag : s'.flag = s.flag) :
    L.Shows (setChunk (L.group x) S c) s' where
  held g := by
    by_cases hg : L.group g = L.group x
    · refine ⟨t, ?_, fun g' hg' => hgroup g' (hg'.trans hg)⟩
      rw [hg, chunk_setChunk_self, Nat.testBit_mod_two_pow, hc, decide_eq_true hlt, Bool.true_and]
    · obtain ⟨u, hu, heq⟩ := h.held g
      refine ⟨u, ?_, fun g' hg' => ?_⟩
      · rwa [chunk_setChunk_of_ne hg]
      · rw [hrest g' (hg' ▸ hg), heq g' hg']
  flag f := by
    rw [chunk_setChunk_of_ne (L.flag_ne_group f x), hflag]
    exact h.flag f

/-- The tuple of a store is among those of its table. -/
theorem Shows.exists_tuple (h : L.Shows S s) (x : H) : ∃ t ∈ L.tuples x S, t < 64 ∧
    ∀ g, L.group g = L.group x → slotAt (L.place g) t = s.held g := by
  obtain ⟨t, ht, heq⟩ := h.held x
  exact ⟨t, (mem_members (chunk_lt _ S)).mpr ht, lt_of_testBit_chunk ht, heq⟩

/-- **Step lemma**: an operation that a table allows succeeds, and the new table shows the store
after it. -/
theorem Shows.act [DecidableEq H] (h : L.Shows S s) {o : Op} {x : H}
    (ha : L.act o x S = some S') : ∃ slot, o.apply (s.held x) = .ok slot ∧
      L.Shows S' { s with held := Function.update s.held x slot } := by
  obtain ⟨ts, hts, rfl⟩ := Option.map_eq_some_iff.mp ha
  obtain ⟨t, ht, hlt, heq⟩ := h.exists_tuple x
  obtain ⟨t', ht', hf⟩ := exists_of_allOf hts ht
  rw [heq x rfl] at hf
  cases happly : o.apply (s.held x) with
  | error m =>
    rw [happly] at hf
    cases hf
  | ok slot =>
    rw [happly] at hf
    obtain rfl : withSlot (L.place x) slot t = t' := Option.some.inj hf
    refine ⟨slot, rfl, h.setGroup (withSlot_lt (L.place_lt x) hlt slot)
      ((testBit_ofMembers ts _).mpr ht') (fun g hg => ?_) (fun g hg => ?_) rfl⟩
    · by_cases hgx : g = x
      · subst hgx
        rw [slotAt_withSlot_self (L.place_lt g)]
        exact (Function.update_self g slot s.held).symm
      · have hplace : L.place g ≠ L.place x := fun hplace => hgx (L.eq_of_place g x hg hplace)
        rw [slotAt_withSlot_of_ne (L.place_lt x) (L.place_lt g) hplace hlt, heq g hg]
        exact (Function.update_of_ne hgx _ _).symm
    · have hgx : g ≠ x := by
        rintro rfl
        exact hg rfl
      exact Function.update_of_ne hgx _ _

/-- A store with `P` at a variable is still shown where the others have been left out. -/
theorem Shows.restrict (h : L.Shows S s) {P : Slot → Bool} {x : H} (hP : P (s.held x) = true) :
    L.ShowsAny (L.restrict P x S) s := by
  obtain ⟨t, ht, hlt, heq⟩ := h.exists_tuple x
  have hmem : t ∈ (L.tuples x S).filter fun t => P (slotAt (L.place x) t) := by
    rw [List.mem_filter, heq x rfl]
    exact ⟨ht, hP⟩
  rw [Layout.restrict]
  split
  · next hnil =>
    rw [hnil] at hmem
    cases hmem
  · refine ⟨_, List.mem_singleton_self _, h.setGroup hlt ?_ heq (fun _ _ => rfl) rfl⟩
    exact (testBit_ofMembers _ t).mpr hmem

/-- A table whose flag is set shows the store whose flag is. -/
theorem Shows.setFlag [DecidableEq F] (h : L.Shows S s) (f : F) (b : Bool) :
    L.Shows (L.setFlag f b S) { s with flag := Function.update s.flag f b } where
  held g := by
    obtain ⟨t, ht, heq⟩ := h.held g
    refine ⟨t, ?_, heq⟩
    rwa [Layout.setFlag, chunk_setChunk_of_ne (L.flag_ne_group f g).symm]
  flag f' := by
    by_cases hf : f' = f
    · subst hf
      simp only [Layout.setFlag, chunk_setChunk_self, Function.update_self]
      cases b <;> decide
    · have hne : L.flag f' ≠ L.flag f := fun hflag => hf (L.eq_of_flag f' f hflag)
      simp only [Layout.setFlag, chunk_setChunk_of_ne hne, Function.update_of_ne hf]
      exact h.flag f'

/-- A flag that has a value is set to it. -/
theorem Shows.flag_eq (h : L.Shows S s) {f : F} {b : Bool} (hb : s.flag f = b) :
    L.Shows (L.setFlag f b S) s := by
  classical
  have hupdate : ({ s with flag := Function.update s.flag f b } : Store H F) = s := by
    rw [← hb, Function.update_eq_self]
  rw [← hupdate]
  exact h.setFlag f b

/-- What is shown by some table is shown by what becomes of that. -/
theorem ShowsAny.bind {as : List Nat} {f : Nat → List Nat} (h : L.ShowsAny as s)
    (hf : ∀ S, L.Shows S s → L.ShowsAny (f S) s) : L.ShowsAny (as.flatMap f) s := by
  obtain ⟨S, hmem, hS⟩ := h
  obtain ⟨S', hmem', hS'⟩ := hf S hS
  exact ⟨S', List.mem_flatMap.mpr ⟨S, hmem, hmem'⟩, hS'⟩

/-- So it is for several variables. -/
theorem ShowsAny.restrictAll {as : List Nat} {P : Slot → Bool} {hs : List H} (h : L.ShowsAny as s)
    (hP : ∀ x ∈ hs, P (s.held x) = true) : L.ShowsAny (L.restrictAll P hs as) s := by
  induction hs generalizing as with
  | nil => exact h
  | cons x hs ih =>
    have hx := h.bind fun S hS => hS.restrict (hP x (List.mem_cons_self ..))
    exact ih hx fun y hy => hP y (List.mem_cons_of_mem _ hy)

/-- A flag of which the table has one value has that value. -/
theorem Shows.flag_of_chunk (h : L.Shows S s) {f : F} {b : Bool}
    (hc : chunk (L.flag f) S = 2 ^ b.toNat) : s.flag f = b := by
  have hbit := h.flag f
  rw [hc, Nat.testBit_two_pow, decide_eq_true_eq] at hbit
  cases hf : s.flag f <;> cases b <;> simp [hf] at hbit ⊢

/-- A variable of whose group the table has one tuple has the value in it. -/
theorem Shows.held_of_chunk (h : L.Shows S s) {x : H} {t : Nat}
    (hc : chunk (L.group x) S = 2 ^ t) : s.held x = slotAt (L.place x) t := by
  obtain ⟨u, hu, heq⟩ := h.held x
  rw [hc, Nat.testBit_two_pow, decide_eq_true_eq] at hu
  rw [← heq x rfl, hu]

/-- The flags may have any values that the table has for them. -/
theorem Shows.withFlags (h : L.Shows S s) {flag : F → Bool}
    (hflag : ∀ f, (chunk (L.flag f) S).testBit (flag f).toNat = true) :
    L.Shows S { s with flag := flag } :=
  ⟨h.held, hflag⟩

/-- It is shown by a longer list. -/
theorem ShowsAny.append {as bs : List Nat} (h : L.ShowsAny as s ∨ L.ShowsAny bs s) :
    L.ShowsAny (as ++ bs) s := by
  obtain ⟨S, hmem, hS⟩ | ⟨S, hmem, hS⟩ := h
  · exact ⟨S, List.mem_append_left _ hmem, hS⟩
  · exact ⟨S, List.mem_append_right _ hmem, hS⟩

end Shows

section Soundness

variable {H F I : Type} [DecidableEq H] [DecidableEq F] {L : Layout H F} {env : I → Bool}
  {may : I → Option Bool}

omit [DecidableEq H] [DecidableEq F] in
/-- A store is among those in which a test may have the value it has. -/
theorem Shows.assume (henv : ∀ i b, may i = some b → env i = b) {s : Store H F} :
    ∀ {c : Cond H F I} {b : Bool} {S : Nat}, L.Shows S s → c.eval env s = b →
      L.ShowsAny (L.assume may b c S) s := by
  intro c
  induction c with
  | flag f =>
    intro b S h hb
    have hbit := h.flag f
    rw [show s.flag f = b from hb] at hbit
    rw [Layout.assume, if_pos hbit]
    exact ⟨_, List.mem_singleton_self _, h.flag_eq hb⟩
  | isSet x =>
    intro b S h hb
    refine h.restrict ?_
    rw [beq_iff_eq]
    exact hb
  | ask i =>
    intro b S h hb
    have hmay : may i ≠ some !b := by
      intro hmay
      have hanswer : env i = !b := henv i _ hmay
      rw [show env i = b from hb] at hanswer
      cases b <;> cases hanswer
    rw [Layout.assume, if_neg hmay]
    exact ⟨S, List.mem_singleton_self _, h⟩
  | not c ih =>
    intro b S h hb
    refine ih h ?_
    rw [← hb, Cond.eval, Bool.not_not]
  | and c d ihc ihd =>
    intro b S h hb
    rw [Cond.eval] at hb
    cases b with
    | true =>
      rw [Bool.and_eq_true] at hb
      exact (ihc h hb.1).bind fun S' h' => ihd h' hb.2
    | false =>
      refine ShowsAny.append ?_
      -- the second test is reached only where the first holds
      cases hc : c.eval env s with
      | true =>
        rw [hc, Bool.true_and] at hb
        exact .inr ((ihc h hc).bind fun S' h' => ihd h' hb)
      | false => exact .inl (ihc h hc)
  | or c d ihc ihd =>
    intro b S h hb
    rw [Cond.eval] at hb
    cases b with
    | true =>
      refine ShowsAny.append ?_
      cases hc : c.eval env s with
      | true => exact .inl (ihc h hc)
      | false =>
        rw [hc, Bool.false_or] at hb
        exact .inr ((ihc h hc).bind fun S' h' => ihd h' hb)
    | false =>
      rw [Bool.or_eq_false_iff] at hb
      exact (ihc h hb.1).bind fun S' h' => ihd h' hb.2

/-- The run is left in a store that the tables show. -/
def Within (L : Layout H F) (o : Outs) : Outcome H F → Prop
  | .misuse _ _ => False
  | .exit e s => L.ShowsAny (o.exits e) s

omit [DecidableEq H] [DecidableEq F] in
/-- Exits may be enlarged. -/
theorem Within.mono {o o' : Outs}
    (h : ∀ e s, L.ShowsAny (o.exits e) s → L.ShowsAny (o'.exits e) s) :
    ∀ {r : Outcome H F}, L.Within o r → L.Within o' r
  | .misuse _ _, hr => hr
  | .exit e s, hr => h e s hr

omit [DecidableEq H] [DecidableEq F] in
/-- The exits of either show what one of them shows. -/
theorem showsAny_union {o o' : Outs} {e : Exit} {s : Store H F}
    (h : L.ShowsAny (o.exits e) s ∨ L.ShowsAny (o'.exits e) s) :
    L.ShowsAny ((L.union o o').exits e) s := by
  cases e <;> exact showsAny_merge h

omit [DecidableEq H] [DecidableEq F] in
/-- Where there is a store, there are tables, and the exits are computed from them. -/
theorem eq_of_ifAny {as : List Nat} {f : List Nat → Option Outs} {o : Outs} {s : Store H F}
    (h : ifAny as f = some o) (hs : L.ShowsAny as s) : f as = some o := by
  match as, h, hs with
  | [], _, ⟨_, hmem, _⟩ => cases hmem
  | _ :: _, h, _ => exact h

omit [DecidableEq H] [DecidableEq F] in
/-- What follows a first part, where that was left in the way `e`. -/
theorem within_of_follow {as : List Nat} {f : List Nat → Option Outs} {o o' : Outs}
    {s : Store H F} {r : Outcome H F}
    (h : ifAny as f = some o') (hs : L.ShowsAny as s)
    (hf : ∀ o₁, f as = some o₁ → L.ShowsAny as s → L.Within o₁ r) :
    L.Within (L.union o o') r :=
  (hf o' (eq_of_ifAny h hs) hs).mono fun _ _ ha => showsAny_union (.inr ha)

/-- **Soundness of the exploration**: where it succeeds from tables that show the store, the run
stays within it. -/
theorem within_of_explore (henv : ∀ i b, may i = some b → env i = b) (p : Prog H F I) :
    ∀ {as : List Nat} {s : Store H F} {o : Outs}, L.explore may p as = some o →
      L.ShowsAny as s → L.Within o (exec env p s) := by
  induction p with
  | skip => intro as s o h hs; cases h; exact hs
  | throw => intro as s o h hs; cases h; exact hs
  | ret => intro as s o h hs; cases h; exact hs
  | op o x =>
    rintro as s outs h ⟨S, hmem, hS⟩
    obtain ⟨bs, hbs, rfl⟩ := Option.map_eq_some_iff.mp h
    obtain ⟨S', hmem', hact⟩ := exists_of_allOf hbs hmem
    obtain ⟨slot, hslot, hS'⟩ := hS.act hact
    rw [exec, Store.act, hslot]
    exact ⟨S', hmem', hS'⟩
  | setFlag f b =>
    rintro as s o h ⟨S, hmem, hS⟩
    cases h
    exact showsAny_merge (.inl ⟨_, List.mem_map_of_mem hmem, hS.setFlag f b⟩)
  -- each branch starts from the tables in which the test has that value
  | branch c p q ihp ihq =>
    intro as s o h hs
    obtain ⟨op, hop, h⟩ := Option.bind_eq_some_iff.mp h
    obtain ⟨oq, hoq, rfl⟩ := Option.map_eq_some_iff.mp h
    have hassume : ∀ {b : Bool}, c.eval env s = b →
        L.ShowsAny (L.merge (as.flatMap (L.assume may b c)) []) s := fun hc =>
      showsAny_merge (.inl (hs.bind fun S hS => hS.assume henv hc))
    rw [exec]
    cases hc : c.eval env s with
    | true =>
      have hp := ihp (eq_of_ifAny hop (hassume hc)) (hassume hc)
      exact hp.mono fun _ _ ha => showsAny_union (.inl ha)
    | false =>
      exact within_of_follow hoq (hassume hc) fun _ ho ha => ihq ho ha
  -- of a first part only its normal end goes on; its other exits are exits of the whole
  | seq p q ihp ihq =>
    intro as s o h hs
    obtain ⟨op, hop, h⟩ := Option.bind_eq_some_iff.mp h
    obtain ⟨oq, hoq, rfl⟩ := Option.map_eq_some_iff.mp h
    have hp := ihp hop hs
    rw [exec]
    cases hr : exec env p s with
    | misuse m x => rw [hr] at hp; exact hp
    | exit e s' =>
      rw [hr] at hp
      cases e with
      | done => exact within_of_follow hoq hp fun _ ho ha => ihq ho ha
      | threw => exact showsAny_union (.inl hp)
      | returned => exact showsAny_union (.inl hp)
  | attempt p q ihp ihq =>
    intro as s o h hs
    obtain ⟨op, hop, h⟩ := Option.bind_eq_some_iff.mp h
    obtain ⟨oq, hoq, rfl⟩ := Option.map_eq_some_iff.mp h
    have hp := ihp hop hs
    rw [exec]
    cases hr : exec env p s with
    | misuse m x => rw [hr] at hp; exact hp
    | exit e s' =>
      rw [hr] at hp
      cases e with
      | done => exact showsAny_union (.inl hp)
      | threw => exact within_of_follow hoq hp fun _ ho ha => ihq ho ha
      | returned => exact showsAny_union (.inl hp)
  | call p q ihp ihq =>
    intro as s o h hs
    obtain ⟨op, hop, h⟩ := Option.bind_eq_some_iff.mp h
    obtain ⟨oq, hoq, rfl⟩ := Option.map_eq_some_iff.mp h
    have hp := ihp hop hs
    rw [exec]
    cases hr : exec env p s with
    | misuse m x => rw [hr] at hp; exact hp
    | exit e s' =>
      rw [hr] at hp
      cases e with
      | done => exact showsAny_union (.inl hp)
      | threw => exact showsAny_union (.inl hp)
      | returned => exact within_of_follow hoq hp fun _ ho ha => ihq ho ha

/-- **No misuse**: where the exploration succeeds, every run from a store shown comes to an end, in
a store that the exits show. -/
theorem exists_exit (henv : ∀ i b, may i = some b → env i = b) {p : Prog H F I} {as : List Nat}
    {s : Store H F} {o : Outs} (h : L.explore may p as = some o) (hs : L.ShowsAny as s) :
    ∃ e s', exec env p s = .exit e s' ∧ L.ShowsAny (o.exits e) s' := by
  have hwithin := within_of_explore henv p h hs
  cases hr : exec env p s with
  | misuse m x =>
    rw [hr] at hwithin
    exact hwithin.elim
  | exit e s' =>
    rw [hr] at hwithin
    exact ⟨e, s', rfl, hwithin⟩

end Soundness

end Layout

end OkularV3d.Handles
