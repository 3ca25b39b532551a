import Mathlib.Data.List.Forall2
import Mathlib.Data.List.Perm.Basic
import Microdata.Form.Folding
import Microdata.Proofs.Form.Leaves
set_option autoImplicit false

/-!
Records put together from the texts in them. Main statement: `foldPairs_leaves`, the paths and texts
of a record give that record again, in whatever order they come. At every time the record so far is
below the whole one (`Below`): each store keeps that and adds the text that it stores and no other
(`store_leaf`). What is below the whole record and has all its texts is the whole record
(`alike_of_below`).
-/

namespace Microdata

namespace Value

inductive Alike : Value → Value → Prop
  | text (s : String) : Alike (.text s) (.text s)
  | list {as bs : List Value} (length : as.length = bs.length)
      (items : ∀ (i : Nat) a b, as[i]? = some a → bs[i]? = some b → Alike a b) :
      Alike (.list as) (.list bs)
  | record {as bs : Fields} (names : (as.map (·.1)).Perm (bs.map (·.1)))
      (values : ∀ n a b, as.get? n = some a → bs.get? n = some b → Alike a b) :
      Alike (.record as) (.record bs)

/-- A part of a value, with whatever is in it missing or, in a list, held open. -/
inductive Below : Value → Value → Prop
  | absent (v : Value) : Below .none v
  | text (s : String) : Below (.text s) (.text s)
  | list {as bs : List Value} (length : as.length ≤ bs.length)
      (items : ∀ (i : Nat) a b, as[i]? = some a → bs[i]? = some b → Below a b) :
      Below (.list as) (.list bs)
  | record {as bs : Fields} (distinct : (as.map (·.1)).Nodup)
      (names : ∀ k ∈ as.map (·.1), k ∈ bs.map (·.1))
      (values : ∀ n a b, as.get? n = some a → bs.get? n = some b → Below a b) :
      Below (.record as) (.record bs)

theorem getElem?_setItem (items : List Value) (i : Nat) (v : Value) (j : Nat) :
    (setItem items i v)[j]? =
      if j = i then some v
      else if j < items.length then items[j]?
      else if j < i then some .none
      else Option.none := by
  rw [setItem, List.getElem?_set]
  by_cases hj : i = j
  · subst hj
    have hlt : i < (items ++ List.replicate (i + 1 - items.length) none).length := by
      rw [List.length_append, List.length_replicate]
      omega
    rw [if_pos rfl, if_pos hlt, if_pos rfl]
  · rw [if_neg hj, if_neg (Ne.symm hj), List.getElem?_append]
    split
    · rfl
    · rename_i hge
      rw [List.getElem?_replicate]
      by_cases hlt : j < i
      · rw [if_pos (by omega), if_pos hlt]
      · rw [if_neg (by omega), if_neg hlt]

theorem length_setItem (items : List Value) (i : Nat) (v : Value) :
    (setItem items i v).length = max items.length (i + 1) := by
  rw [setItem, List.length_set, List.length_append, List.length_replicate]
  omega

theorem atPlace?_none_ne (p : Place) (s : String) : Value.none.atPlace? p ≠ some (text s) := by
  cases p <;> simp [atPlace?, at?]

theorem atPlace?_cons (v : Value) (step : Step) (p : Place) :
    v.atPlace? (step :: p) = (v.at? step).bind fun a => a.atPlace? p := rfl

theorem refusal?_of_isContainer {v : Value} (h : v.isContainer = true) (step : Step) :
    v.refusal? step = Option.none := by
  cases v with
  | list | record => rfl
  | _ => cases h

namespace Below

variable {v r a b : Value} {step : Step}

theorem empty (fields : Fields) : Below (.record []) (.record fields) := by
  refine .record List.nodup_nil (by simp) ?_
  intro n a b ha
  cases ha

theorem container (h : Below v r) (hc : v.isContainer = true) : r.isContainer = true := by
  cases h with
  | absent | text => cases hc
  | list | record => rfl

/-- A step into the whole value is a step into each part of it. -/
theorem kinds (h : Below v r) (hc : v.isContainer = true) (hb : r.at? step = some b) :
    (∃ as bs n, v = .record as ∧ r = .record bs ∧ step = .name n) ∨
      ∃ as bs i, v = .list as ∧ r = .list bs ∧ step = .index i := by
  cases h with
  | absent | text => cases hc
  | @list as bs _ _ =>
    cases step with
    | name n => cases hb
    | index i => exact .inr ⟨as, bs, i, rfl, rfl, rfl⟩
  | @record as bs _ _ _ =>
    cases step with
    | name n => exact .inl ⟨as, bs, n, rfl, rfl, rfl⟩
    | index i => cases hb

theorem at? (h : Below v r) (hc : v.isContainer = true) (hb : r.at? step = some b)
    (ha : v.at? step = some a) : Below a b := by
  rcases h.kinds hc hb with ⟨as, bs, n, rfl, rfl, rfl⟩ | ⟨as, bs, i, rfl, rfl, rfl⟩
  · cases h with
    | record _ _ hv => exact hv n a b ha hb
  · cases h with
    | list _ hi => exact hi i a b ha hb

theorem put {as bs : Fields} {n : String} (h : Below (.record as) (.record bs))
    (hb : bs.get? n = some b) (hab : Below a b) : Below (.record (as.put n a)) (.record bs) := by
  cases h with
  | record hd hn hv =>
    refine .record (Fields.nodup_names_put hd) ?_ ?_
    · intro k hk
      rcases Fields.mem_names_put.mp hk with rfl | hk
      · have hsome : (bs.get? n).isSome := by
          rw [hb]
          rfl
        exact Fields.get?_isSome_iff.mp hsome
      · exact hn k hk
    · intro m x y hx hy
      rw [Fields.get?_put] at hx
      split at hx
      · rename_i hm
        subst hm
        cases hx
        cases hb.symm.trans hy
        exact hab
      · exact hv m x y hx hy

theorem putItem {as bs : List Value} {i : Nat} (h : Below (.list as) (.list bs))
    (hb : bs[i]? = some b) (hab : Below a b) : Below (.list (setItem as i a)) (.list bs) := by
  cases h with
  | list hl hi =>
    have hlt : i < bs.length := (List.getElem?_eq_some_iff.mp hb).1
    refine .list ?_ ?_
    · rw [length_setItem]
      omega
    · intro j x y hx hy
      rw [getElem?_setItem] at hx
      split at hx
      · rename_i hj
        subst hj
        cases hx
        cases hb.symm.trans hy
        exact hab
      · split at hx
        · exact hi j x y hx hy
        · split at hx
          · cases hx
            exact .absent y
          · cases hx

theorem setAt (h : Below v r) (hc : v.isContainer = true) (hb : r.at? step = some b)
    (hab : Below a b) :
    Below (v.setAt step a) r ∧ (v.setAt step a).isContainer = true := by
  rcases h.kinds hc hb with ⟨as, bs, n, rfl, rfl, rfl⟩ | ⟨as, bs, i, rfl, rfl, rfl⟩
  · exact ⟨h.put hb hab, rfl⟩
  · exact ⟨h.putItem hb hab, rfl⟩

theorem at?_setAt_self (h : Below v r) (hc : v.isContainer = true) (hb : r.at? step = some b) :
    (v.setAt step a).at? step = some a := by
  rcases h.kinds hc hb with ⟨as, bs, n, rfl, rfl, rfl⟩ | ⟨as, bs, i, rfl, rfl, rfl⟩
  · change Fields.get? n (Fields.put n a as) = some a
    rw [Fields.get?_put, if_pos rfl]
  · change (setItem as i a)[i]? = some a
    rw [getElem?_setItem, if_pos rfl]

theorem at?_setAt_ne (h : Below v r) (hc : v.isContainer = true) (hb : r.at? step = some b)
    {other : Step} (hne : other ≠ step) :
    (v.setAt step a).at? other = v.at? other ∨
      v.at? other = Option.none ∧ (v.setAt step a).at? other = some .none := by
  rcases h.kinds hc hb with ⟨as, bs, n, rfl, rfl, rfl⟩ | ⟨as, bs, i, rfl, rfl, rfl⟩
  · cases other with
    | index j => exact .inl rfl
    | name m =>
      have hm : n ≠ m := fun he => hne (he ▸ rfl)
      left
      change Fields.get? m (Fields.put n a as) = Fields.get? m as
      rw [Fields.get?_put, if_neg hm]
  · cases other with
    | name m => exact .inl rfl
    | index j =>
      have hj : j ≠ i := fun he => hne (he ▸ rfl)
      change (setItem as i a)[j]? = as[j]? ∨
        as[j]? = Option.none ∧ (setItem as i a)[j]? = some .none
      rw [getElem?_setItem, if_neg hj]
      by_cases hlt : j < as.length
      · exact .inl (if_pos hlt)
      · have hnone : as[j]? = Option.none := List.getElem?_eq_none (Nat.le_of_not_lt hlt)
        rw [if_neg hlt, hnone]
        split
        · exact .inr ⟨rfl, rfl⟩
        · exact .inl rfl

theorem atPlace?_setAt_ne (h : Below v r) (hc : v.isContainer = true) (hb : r.at? step = some b)
    {other : Step} (hne : other ≠ step) (p : Place) (s : String) :
    (v.setAt step a).atPlace? (other :: p) = some (.text s) ↔
      v.atPlace? (other :: p) = some (.text s) := by
  rw [atPlace?_cons, atPlace?_cons]
  rcases h.at?_setAt_ne (a := a) hc hb hne with he | ⟨hnone, hopen⟩
  · rw [he]
  · rw [hnone, hopen, Option.bind_some, Option.bind_none]
    exact iff_of_false (atPlace?_none_ne p s) nofun

theorem step?_part (h : Below v r) (hc : v.isContainer = true) (hr : Tree r)
    (hb : r.at? step = some b) : v.step? step.part = .ok (some step) := by
  rcases h.kinds hc hb with ⟨as, bs, n, rfl, rfl, rfl⟩ | ⟨as, bs, i, rfl, rfl, rfl⟩
  · rfl
  · cases hr with
    | list hlength _ _ =>
      have hlt : i < bs.length := (List.getElem?_eq_some_iff.mp hb).1
      have hread := readNumber_part_index (Nat.lt_of_lt_of_le hlt hlength)
      simp only [step?, isNumber_part_index, if_true, hread]
      rfl

theorem vacant (h : Below v r) (hc : v.isContainer = true) {s : String}
    (hb : r.at? step = some (.text s)) (hfree : v.atPlace? [step] ≠ some (.text s)) :
    v.at? step = Option.none ∨ v.at? step = some .none := by
  cases hv : v.at? step with
  | none => exact .inl rfl
  | some a =>
    cases h.at? hc hb hv with
    | absent => exact .inr rfl
    | text =>
      refine absurd ?_ hfree
      rw [atPlace?_cons, hv]
      rfl

theorem leaves_setAt (h : Below v r) (hc : v.isContainer = true) (hr : Tree r)
    (hb : r.at? step = some b) {p : Place} {s : String}
    (ha : ∀ l ∈ b.leaves, a.atPlace? l.1 = some (.text l.2) ↔
      l = (p, s) ∨ v.atPlace? (step :: l.1) = some (.text l.2)) :
    ∀ l ∈ r.leaves, (v.setAt step a).atPlace? l.1 = some (.text l.2) ↔
      l = (step :: p, s) ∨ v.atPlace? l.1 = some (.text l.2) := by
  intro l hl
  obtain ⟨other, q, c, hlo, hoc, hq⟩ := (mem_leaves_iff hr (h.container hc)).mp hl
  by_cases ho : other = step
  · subst ho
    cases hb.symm.trans hoc
    have heq : l = (other :: p, s) ↔ (q, l.2) = (p, s) := by
      rw [Prod.ext_iff, Prod.ext_iff, hlo, List.cons_inj_right]
    rw [hlo, atPlace?_cons, h.at?_setAt_self hc hb, Option.bind_some, ha _ hq, heq]
  · have hne : l ≠ (step :: p, s) := by
      rintro rfl
      exact ho (List.cons.inj hlo).1.symm
    rw [hlo, h.atPlace?_setAt_ne hc hb ho, or_iff_right hne]

end Below

/-- What a path goes on in: what is there or, if nothing is, what is made for its next part. -/
def entered (v : Value) (step : Step) (next : String) : Value :=
  match v.at? step with
  | Option.none | some none => fresh next
  | some a => a

variable {v r b : Value} {step : Step}

variable {part : String}

theorem storeLast_vacant (hc : v.isContainer = true)
    (hvacant : v.at? step = Option.none ∨ v.at? step = some .none) (listed : Bool) (a : Value) :
    v.storeLast step listed a =
      if listed then ⟨v.setAt step (list [a]), .ok (.stored [step, .index 0])⟩
      else ⟨v.setAt step a, .ok (.stored [step])⟩ := by
  have hrefusal := refusal?_of_isContainer hc step
  rcases hvacant with hv | hv <;> simp only [storeLast, hv, hrefusal]

theorem store_last (hstep : v.step? part = .ok (some step)) (listed : Bool) (a : Value) :
    v.store [part] listed a = v.storeLast step listed a := by
  simp only [store, hstep]

theorem store_cons (hc : v.isContainer = true) (hstep : v.step? part = .ok (some step))
    {next : String} (hin : (v.entered step next).isContainer = true) (rest : List String)
    (listed : Bool) (a : Value) :
    v.store (part :: next :: rest) listed a =
      ⟨v.setAt step ((v.entered step next).store (next :: rest) listed a).container,
        ((v.entered step next).store (next :: rest) listed a).result.map (.under step)⟩ := by
  have hrefusal := refusal?_of_isContainer hc step
  rw [store, hstep]
  unfold entered at hin ⊢
  generalize hv : v.at? step = there at hin
  dsimp only
  rw [hv]
  cases there with
  | none => simp only [hrefusal]
  | some inner =>
    cases inner with
    | none => simp only [hrefusal]
    | _ =>
      dsimp only at hin
      simp only [hin, if_true]

theorem Below.fresh (htree : Tree b) (hshows : b.Shows) {next : Step} {p : Place} {s : String}
    (hl : (next :: p, s) ∈ b.leaves) :
    Below (Value.fresh next.part) b ∧ (Value.fresh next.part).isContainer = true ∧
      ∀ m, (Value.fresh next.part).at? m = Option.none := by
  cases htree with
  | text t => simp [leaves] at hl
  | @list items _ _ _ =>
    rw [leaves, mem_leavesOfItems] at hl
    obtain ⟨k, w, -, q, hq, -⟩ := hl
    obtain ⟨rfl, -⟩ := List.cons.inj hq
    rw [Value.fresh, isNumber_part_index, if_pos rfl]
    refine ⟨.list (Nat.zero_le _) (by simp), rfl, fun m => ?_⟩
    cases m <;> rfl
  | @record fields _ _ _ _ =>
    rw [leaves, mem_leavesOfFields] at hl
    obtain ⟨n, w, hm, q, hq, -⟩ := hl
    obtain ⟨rfl, -⟩ := List.cons.inj hq
    have hn : isNumber n = false := hshows.2 _ hm n rfl
    change Below (Value.fresh n) _ ∧ (Value.fresh n).isContainer = true ∧
      ∀ m, (Value.fresh n).at? m = Option.none
    rw [Value.fresh, hn]
    refine ⟨empty fields, rfl, fun m => ?_⟩
    cases m <;> rfl

theorem Below.entered (h : Below v r) (hc : v.isContainer = true) (hr : Tree r)
    (hb : r.at? step = some b) {next : Step} {p : Place} {s : String}
    (hl : (next :: p, s) ∈ b.leaves) :
    Below (v.entered step next.part) b ∧ (v.entered step next.part).isContainer = true ∧
      ∀ (m : Step) (q : Place) (t : String),
        (v.entered step next.part).atPlace? (m :: q) = some (.text t) ↔
          v.atPlace? (step :: m :: q) = some (.text t) := by
  obtain ⟨htree, hshows⟩ := hr.at? (h.container hc) hb
  obtain ⟨hbelow, hcontainer, hempty⟩ := Below.fresh htree hshows hl
  have hnothing (m : Step) (q : Place) (t : String) :
      (Value.fresh next.part).atPlace? (m :: q) ≠ some (.text t) := by
    rw [atPlace?_cons, hempty m, Option.bind_none]
    nofun
  have hat (m : Step) (q : Place) : v.atPlace? (step :: m :: q) =
      (v.at? step).bind fun a => a.atPlace? (m :: q) := atPlace?_cons v step (m :: q)
  unfold Value.entered
  cases hv : v.at? step with
  | none =>
    refine ⟨hbelow, hcontainer, fun m q t => iff_of_false (hnothing m q t) ?_⟩
    rw [hat, hv, Option.bind_none]
    nofun
  | some a =>
    have hab := h.at? hc hb hv
    cases hab with
    | absent =>
      refine ⟨hbelow, hcontainer, fun m q t => iff_of_false (hnothing m q t) ?_⟩
      rw [hat, hv, Option.bind_some]
      exact atPlace?_none_ne _ t
    | text t => simp [leaves] at hl
    | list hlength hitems =>
      refine ⟨.list hlength hitems, rfl, fun m q t => ?_⟩
      rw [hat, hv, Option.bind_some]
    | record hd hn hvalues =>
      refine ⟨.record hd hn hvalues, rfl, fun m q t => ?_⟩
      rw [hat, hv, Option.bind_some]

theorem Tree.eq_text (hb : Tree b) {s : String} (hl : ([], s) ∈ b.leaves) : b = .text s := by
  cases hb with
  | text t => simpa [leaves, eq_comm] using hl
  | list hx hy hz =>
    obtain ⟨m, q, c, hm, -⟩ := (mem_leaves_iff (.list hx hy hz) rfl).mp hl
    cases hm
  | record hx hy hz hw =>
    obtain ⟨m, q, c, hm, -⟩ := (mem_leaves_iff (.record hx hy hz hw) rfl).mp hl
    cases hm

/-- A text of the whole value that is not there yet is stored where it belongs. What results is
still a part of the whole value, and has one text more. -/
theorem store_leaf (hr : Tree r) (h : Below v r) (hc : v.isContainer = true) {p : Place}
    {s : String} (hl : (p, s) ∈ r.leaves) (hfree : v.atPlace? p ≠ some (.text s)) :
    ∃ w, v.store (p.map Step.part) false (.text s) = ⟨w, .ok (.stored p)⟩ ∧ Below w r ∧
      w.isContainer = true ∧ ∀ l ∈ r.leaves, w.atPlace? l.1 = some (.text l.2) ↔
        l = (p, s) ∨ v.atPlace? l.1 = some (.text l.2) := by
  -- on the place: what a step goes on in is again below what is there in the whole value
  induction p generalizing v r with
  | nil =>
    obtain ⟨step, q, b, he, -⟩ := (mem_leaves_iff hr (h.container hc)).mp hl
    cases he
  | cons step p ih =>
    have hrc := h.container hc
    obtain ⟨step', q, b, he, hb, hlb⟩ := (mem_leaves_iff hr hrc).mp hl
    cases he
    have htree := (hr.at? hrc hb).1
    have hstep := h.step?_part hc hr hb
    cases p with
    | nil =>
      obtain rfl := htree.eq_text hlb
      obtain ⟨hbelow, hcontainer⟩ := h.setAt hc hb (.text s)
      have hlast : v.store [step.part] false (.text s) =
          ⟨v.setAt step (.text s), .ok (.stored [step])⟩ := by
        rw [store_last hstep, storeLast_vacant hc (h.vacant hc hb hfree)]
        rfl
      refine ⟨_, hlast, hbelow, hcontainer, h.leaves_setAt hc hr hb ?_⟩
      intro l hl
      obtain rfl : l = ([], s) := by simpa [leaves] using hl
      exact iff_of_true rfl (.inl rfl)
    | cons next p =>
      obtain ⟨hbelow, hcontainer, hsame⟩ := h.entered hc hr hb hlb
      have hnext : (v.entered step next.part).atPlace? (next :: p) ≠ some (.text s) := by
        rw [Ne, hsame]
        exact hfree
      obtain ⟨w, hw, hwb, hwc, hwl⟩ := ih htree hbelow hcontainer hlb hnext
      obtain ⟨hset, hsetc⟩ := h.setAt hc hb hwb
      refine ⟨v.setAt step w, ?_, hset, hsetc, h.leaves_setAt hc hr hb ?_⟩
      · have hcons := store_cons hc hstep hcontainer (p.map Step.part) false (.text s)
        rw [List.map_cons] at hw
        rw [List.map_cons, List.map_cons, hcons, hw]
        rfl
      · rintro ⟨q, t⟩ hq
        obtain ⟨m, q, -, rfl, -⟩ := (mem_leaves_iff htree (hbelow.container hcontainer)).mp hq
        rw [hwl _ hq, hsame]

theorem exists_at?_of_leaves (hr : Tree r) (hc : r.isContainer = true)
    (hall : ∀ l ∈ r.leaves, v.atPlace? l.1 = some (.text l.2)) (hb : r.at? step = some b) :
    ∃ a, v.at? step = some a ∧ ∀ l ∈ b.leaves, a.atPlace? l.1 = some (.text l.2) := by
  have hunder (l : Place × String) (hl : l ∈ b.leaves) :
      (v.at? step).bind (fun a => a.atPlace? l.1) = some (.text l.2) :=
    hall (step :: l.1, l.2) ((mem_leaves_iff hr hc).mpr ⟨step, l.1, b, rfl, hb, hl⟩)
  obtain ⟨htree, hshows⟩ := hr.at? hc hb
  obtain ⟨l, hl⟩ := exists_mem_leaves htree hshows
  obtain ⟨a, ha, -⟩ := Option.bind_eq_some_iff.mp (hunder l hl)
  refine ⟨a, ha, fun l hl => ?_⟩
  have hl := hunder l hl
  rwa [ha, Option.bind_some] at hl

theorem ne_none_of_leaves (hr : Tree r) (hs : r.Shows)
    (hall : ∀ l ∈ r.leaves, v.atPlace? l.1 = some (.text l.2)) : v ≠ .none := by
  rintro rfl
  obtain ⟨l, hl⟩ := exists_mem_leaves hr hs
  exact atPlace?_none_ne l.1 l.2 (hall l hl)

theorem length_eq_of_leaves {as bs : List Value} (hr : Tree (.list bs))
    (hall : ∀ l ∈ (Value.list bs).leaves, (Value.list as).atPlace? l.1 = some (.text l.2))
    (hle : as.length ≤ bs.length) : as.length = bs.length := by
  refine Nat.le_antisymm hle (Nat.le_of_not_lt fun hlt => ?_)
  have hb : (Value.list bs).at? (.index as.length) = some bs[as.length] :=
    List.getElem?_eq_getElem hlt
  obtain ⟨a, ha, -⟩ := exists_at?_of_leaves hr rfl hall hb
  have hlt := (List.getElem?_eq_some_iff.mp ha).1
  omega

theorem names_subset_of_leaves {as bs : Fields} (hr : Tree (.record bs))
    (hall : ∀ l ∈ (Value.record bs).leaves, (Value.record as).atPlace? l.1 = some (.text l.2)) :
    ∀ k ∈ bs.map (·.1), k ∈ as.map (·.1) := by
  intro k hk
  obtain ⟨e, he, rfl⟩ := List.mem_map.mp hk
  cases hr with
  | record hnames hdistinct htrees hshown =>
    obtain ⟨n, hn, -⟩ := hnames e he
    have hb : (Value.record bs).at? (.name n) = some e.2 :=
      Fields.get?_of_mem hdistinct (hn ▸ he)
    obtain ⟨a, ha, -⟩ :=
      exists_at?_of_leaves (.record hnames hdistinct htrees hshown) rfl hall hb
    have hsome : (as.get? n).isSome := by
      change (Value.at? (.record as) (.name n)).isSome = true
      rw [ha]
      rfl
    rw [hn]
    exact Fields.get?_isSome_iff.mp hsome

theorem alike_of_below (hr : Tree r) (hne : v ≠ .none) (h : Below v r)
    (hall : ∀ l ∈ r.leaves, v.atPlace? l.1 = some (.text l.2)) : Alike v r := by
  induction hr generalizing v with
  | text s =>
    have hv := hall ([], s) (by simp [leaves])
    obtain rfl : v = .text s := by simpa [atPlace?] using hv
    exact .text s
  | @list bs hlength htrees hshown ih =>
    have hr := Tree.list hlength htrees hshown
    cases h with
    | absent => exact absurd rfl hne
    | @list as _ hle hitems =>
      refine .list (length_eq_of_leaves hr hall hle) fun i a b ha hb => ?_
      have hat : (Value.list bs).at? (.index i) = some b := hb
      obtain ⟨a', ha', hleaves⟩ := exists_at?_of_leaves hr rfl hall hat
      cases ha.symm.trans ha'
      have hm : b ∈ bs := List.mem_of_getElem? hb
      have hthere := ne_none_of_leaves (htrees b hm) (hshown b hm) hleaves
      exact ih b hm hthere (hitems i a b ha hb) hleaves
  | @record bs hnames hdistinct htrees hshown ih =>
    have hr := Tree.record hnames hdistinct htrees hshown
    cases h with
    | absent => exact absurd rfl hne
    | @record as _ hd hsub hvalues =>
      have hperm : (as.map (·.1)).Perm (bs.map (·.1)) :=
        (List.perm_ext_iff_of_nodup hd hdistinct).mpr fun k =>
          ⟨hsub k, names_subset_of_leaves hr hall k⟩
      refine .record hperm fun n a b ha hb => ?_
      have hat : (Value.record bs).at? (.name n) = some b := hb
      obtain ⟨a', ha', hleaves⟩ := exists_at?_of_leaves hr rfl hall hat
      cases ha.symm.trans ha'
      have hm := Fields.mem_of_get? hb
      have hthere := ne_none_of_leaves (htrees _ hm) (hshown _ hm) hleaves
      exact ih _ hm hthere (hvalues n a b ha hb) hleaves

end Value

open Value

def Written (pair : String × Value) (l : Place × String) : Prop :=
  l.1.Spells pair.1 ∧ pair.2 = .text l.2

theorem Folding.run_leaves {r : Value} (hr : Tree r) {pairs : List (String × Value)}
    {ls : List (Place × String)} (hpairs : List.Forall₂ Written pairs ls)
    (hls : ∀ l ∈ ls, l ∈ r.leaves) (hdistinct : (ls.map (·.1)).Nodup) {f : Folding}
    (h : Below f.record r) (hc : f.record.isContainer = true)
    (hfree : ∀ l ∈ ls, f.record.atPlace? l.1 ≠ some (.text l.2)) :
    ∃ g, f.run pairs = (g, Option.none) ∧ Below g.record r ∧ g.record.isContainer = true ∧
      ∀ l ∈ r.leaves, g.record.atPlace? l.1 = some (.text l.2) ↔
        l ∈ ls ∨ f.record.atPlace? l.1 = some (.text l.2) := by
  induction hpairs generalizing f with
  | nil => exact ⟨f, rfl, h, hc, fun l _ => by simp⟩
  | @cons pair l pairs ls hpair _ ih =>
    obtain ⟨path, v⟩ := pair
    obtain ⟨p, s⟩ := l
    obtain ⟨hspells, rfl⟩ := hpair
    have hl := hls _ (List.mem_cons_self ..)
    have hpath := Place.ofText_of_spells hspells fun n hn => isPart_of_mem_leaves hr hl hn
    obtain ⟨w, hw, hwb, hwc, hwl⟩ := store_leaf hr h hc hl (hfree _ (List.mem_cons_self ..))
    rw [List.map_cons, List.nodup_cons] at hdistinct
    have hrest : ∀ m ∈ ls, w.atPlace? m.1 ≠ some (.text m.2) := by
      intro m hm hmw
      rcases (hwl m (hls m (List.mem_cons_of_mem _ hm))).mp hmw with rfl | hmf
      · exact hdistinct.1 (List.mem_map_of_mem (f := (·.1)) hm)
      · exact hfree m (List.mem_cons_of_mem _ hm) hmf
    obtain ⟨g, hg, hgb, hgc, hgl⟩ := ih (fun m hm => hls m (List.mem_cons_of_mem _ hm))
      hdistinct.2 (f := ⟨w, recordPlace f.places (.stored p)⟩) hwb hwc hrest
    refine ⟨g, ?_, hgb, hgc, fun m hm => ?_⟩
    · simp only [run, hpath, hw]
      exact hg
    · rw [hgl m hm, hwl m hm, List.mem_cons, or_left_comm, or_assoc]

/-- The paths and texts of a record, in whatever order, make that record. -/
theorem foldPairs_leaves {fields : Fields} (hr : Tree (.record fields))
    {written pairs : List (String × Value)}
    (hwritten : List.Forall₂ Written written (Value.record fields).leaves)
    (hperm : pairs.Perm written) :
    ∃ v, foldPairs pairs = .ok v ∧ Alike v (.record fields) := by
  obtain ⟨ls, hpairs, hls⟩ := List.perm_comp_forall₂ hperm hwritten
  have hdistinct := (hls.map (·.1)).nodup_iff.mpr (nodup_leaves hr)
  have hbegin : Below (.record []) (.record fields) := Below.empty fields
  have hempty (p : Place) (s : String) : (Value.record []).atPlace? p ≠ some (.text s) := by
    cases p with
    | nil => nofun
    | cons step p => cases step <;> nofun
  obtain ⟨g, hg, hgb, hgc, hgl⟩ := Folding.run_leaves hr hpairs (fun l hl => hls.mem_iff.mp hl)
    hdistinct (f := {}) hbegin rfl fun l _ => hempty l.1 l.2
  have hne : g.record ≠ .none := by
    intro he
    rw [he] at hgc
    cases hgc
  refine ⟨g.record, ?_, ?_⟩
  · rw [foldPairs, hg]
  · exact alike_of_below hr hne hgb fun l hl => (hgl l hl).mpr (.inl (hls.mem_iff.mpr hl))

def sample : Fields :=
  [(.text "a", .list [.text "x", .record [(.text "b", .text "y")]]), (.text "0", .text "z")]

theorem tree_sample : Tree (.record sample) := by
  have hname (n : String) (hn : n ≠ "" ∧ n.toList.any Path.isSeparator = false) : IsPart n :=
    ⟨hn.1, by simpa using hn.2⟩
  have hb : Tree (.record [(.text "b", .text "y")]) := by
    refine .record ?_ (by simp) ?_ ?_
    · simpa using hname "b" (by decide)
    · simpa using Tree.text "y"
    · simp [Shows]
  have ha : Tree (.list [.text "x", .record [(.text "b", .text "y")]]) := by
    refine .list ?_ ?_ ?_
    · have hlimit {k : Nat} (hk : 1 ≤ k) : 2 ≤ Nat.pow 10 k :=
        Nat.le_trans (by decide : 2 ≤ 10) (Nat.le_self_pow (by omega) 10)
      exact hlimit (by decide)
    · simpa using ⟨Tree.text "x", hb⟩
    · simpa [Shows] using (by decide : isNumber "b" = false)
  refine .record ?_ (by simp [sample]) ?_ ?_
  · simpa [sample] using ⟨hname "a" (by decide), hname "0" (by decide)⟩
  · simpa [sample] using ⟨ha, Tree.text "z"⟩
  · simp [sample, Shows]

theorem foldPairs_sample :
    Tree (.record sample) ∧
      List.Forall₂ Written [("a.0", .text "x"), ("a[1].b", .text "y"), ("0", .text "z")]
        (Value.record sample).leaves ∧
      [("a[1].b", Value.text "y"), ("0", .text "z"), ("a.0", .text "x")].Perm
        [("a.0", .text "x"), ("a[1].b", .text "y"), ("0", .text "z")] ∧
      ∃ v, foldPairs [("a[1].b", .text "y"), ("0", .text "z"), ("a.0", .text "x")] = .ok v ∧
        Alike v (.record sample) := by
  have hleaves : (Value.record sample).leaves =
      [([.name "a", .index 0], "x"), ([.name "a", .index 1, .name "b"], "y"),
        ([.name "0"], "z")] := by
    simp [sample, leaves, leavesOfFields, leavesOfItems]
  have hwritten : List.Forall₂ Written
      [("a.0", .text "x"), ("a[1].b", .text "y"), ("0", .text "z")]
      (Value.record sample).leaves := by
    rw [hleaves]
    refine .cons ⟨?_, rfl⟩ (.cons ⟨?_, rfl⟩ (.cons ⟨?_, rfl⟩ .nil))
    · exact .name "a" (.dotted 0 .nil) (by decide)
    · exact .name "a" (.bracketed 1 (.name "b" .nil)) (by decide)
    · exact .name "0" .nil (by decide)
  have hperm : [("a[1].b", Value.text "y"), ("0", .text "z"), ("a.0", .text "x")].Perm
      [("a.0", .text "x"), ("a[1].b", .text "y"), ("0", .text "z")] :=
    List.perm_append_singleton _ [_, _]
  exact ⟨tree_sample, hwritten, hperm, foldPairs_leaves tree_sample hwritten hperm⟩

end Microdata
