import RecordFilter.Clause.Hash
import RecordFilter.Proofs.Clause.Reading
import RecordFilter.Proofs.Value.Settled

/-!
Expressions that are the same: they are interchangeable.

The kind of an expression that was read fixes what its value is made of (`Value.IsOf`), so that two
such expressions are the same exactly if they differ in no more than the sign of a zero. Their
hashes, their texts and the records that meet them do not depend on it.
-/

namespace RecordFilter

namespace Value

variable {a b : Value}

theorem same_of_magnitude? {x y : Magnitude} (ha : a.magnitude? = some x)
    (hb : b.magnitude? = some y) : same a b = decide (x = y) := by
  rw [same.eq_def]
  split
  case h_9 => rw [ha, hb]
  all_goals cases ha

theorem hash?_of_magnitude? (h : Hashing) {x : Magnitude} (ha : a.magnitude? = some x) :
    hash? h a = some x.hash := by
  rw [hash?.eq_def]
  split
  case h_9 => rw [ha, Option.map_some]
  all_goals cases ha

/-- Values that are the same have the same hash, if they have one. -/
theorem hash?_eq_of_same (h : Hashing) (a b : Value) : same a b → hash? h a = hash? h b := by
  apply same.induct (fun a b => same a b → hash? h a = hash? h b) (fun _ _ => True)
    (fun as bs => sameAll as bs → hashAll? h as = hashAll? h bs)
  case case1 => exact fun _ => rfl
  case case2 | case3 | case4 | case5 =>
    intro a b hsame
    rw [of_decide_eq_true hsame]
  case case6 =>
    intro as bs ih hsame
    rw [same] at hsame
    rw [hash?, hash?, ih hsame]
  case case7 | case8 => exact fun _ _ _ _ => rfl
  case case9 =>
    intro a b _ _ _ _ _ _ _ _ x y hy hx hsame
    rw [same_of_magnitude? hx hy] at hsame
    rw [hash?_of_magnitude? h hx, hash?_of_magnitude? h hy, of_decide_eq_true hsame]
  case case10 =>
    intro a b hnull hduration hdate hmoment htext htuple hlist hdict hnone hsame
    rw [same.eq_def] at hsame
    split at hsame
    · exact (hnull rfl rfl).elim
    · exact (hduration _ _ rfl rfl).elim
    · exact (hdate _ _ rfl rfl).elim
    · exact (hmoment _ _ rfl rfl).elim
    · exact (htext _ _ rfl rfl).elim
    · exact (htuple _ _ rfl rfl).elim
    · exact (hlist _ _ rfl rfl).elim
    · exact (hdict _ _ rfl rfl).elim
    · split at hsame
      · rename_i x y hx hy
        exact (hnone x y hx hy).elim
      · cases hsame
  case case11 => exact fun _ => rfl
  case case12 =>
    intro a as b bs ihItem ihItems hsame
    rw [sameAll, Bool.and_eq_true] at hsame
    rw [hashAll?, hashAll?, ihItem hsame.1, ihItems hsame.2]
  case case13 =>
    intro as bs hnil hcons hsame
    cases as with
    | nil =>
      cases bs with
      | nil => rfl
      | cons b bs => cases hsame
    | cons a as =>
      cases bs with
      | nil => cases hsame
      | cons b bs => exact (hcons a as b bs rfl rfl).elim
  case case14 => exact fun _ => trivial
  case case15 =>
    intros
    trivial

/-- What the values of a kind are made of. -/
inductive IsOf : Kind → Value → Prop
  | integer (i : Int) : IsOf .integer (.integer i)
  | float (x : Binary64) : IsOf .float (.float x)
  | boolean (b : Bool) : IsOf .boolean (.boolean b)
  | memory (bytes : Int) : IsOf .memory (.size bytes)
  | clusterDuration (d : Duration) : IsOf .clusterDuration (.duration d)
  | duration (d : Duration) : IsOf .duration (.duration d)
  | string (t : Text) : IsOf .string (.text t)
  | stringList (items : List Text) : IsOf .stringList (.tuple (items.map .text))

theorem isOf_ofScalar (s : Scalar) : IsOf s.kind (ofScalar s) := by
  cases s <;> constructor

/-- In a row of texts, the same items are equal. -/
theorem sameAll_map_text (items others : List Text) :
    sameAll (items.map .text) (others.map .text) = decide (items = others) := by
  induction items generalizing others with
  | nil =>
    cases others with
    | nil => rfl
    | cons other others => rfl
  | cons item items ih =>
    cases others with
    | nil => rfl
    | cons other others =>
      rw [List.map_cons, List.map_cons, sameAll, same, ih]
      simp only [List.cons.injEq, Bool.decide_and]

theorem hashAll?_map_text (h : Hashing) (items : List Text) :
    hashAll? h (items.map .text) = some (items.map h.text) := by
  induction items with
  | nil => rfl
  | cons item items ih =>
    rw [List.map_cons, hashAll?, ih, hash?]
    rfl

/-- What a value is compared by in an expression. -/
def key (v : Value) : Value :=
  Expression.key ⟨[], .equals, v, .string⟩

theorem same_finite_iff {i j : Int} (ha : a.magnitude? = some (.finite (i * Binary64.scale)))
    (hb : b.magnitude? = some (.finite (j * Binary64.scale))) : same a b ↔ i = j := by
  have hscale : (Binary64.scale : Int) ≠ 0 :=
    Int.natCast_ne_zero.mpr (Nat.ne_of_gt Binary64.scale_pos)
  rw [same_of_magnitude? ha hb, decide_eq_true_iff, Magnitude.finite.injEq]
  exact ⟨Int.eq_of_mul_eq_mul_right hscale, fun heq => by rw [heq]⟩

private theorem magnitude?_boolean (b : Bool) :
    (boolean b).magnitude? = some (.finite ((if b then 1 else 0) * Binary64.scale)) := by
  cases b with
  | false => rw [magnitude?, if_neg Bool.false_ne_true, if_neg Bool.false_ne_true, Int.zero_mul]
  | true => rw [magnitude?, if_pos rfl, if_pos rfl, Int.one_mul]

/-- A tuple stands for an undefined number, which is the same as no other number then. -/
private theorem same_key_float_iff (x y : Binary64) :
    same (float x).key (float y).key ↔ x.settled = y.settled := by
  have hkey : ∀ z, z = Binary64.nan ∨
      (float z).key = float z ∧ ∃ m, (float z).magnitude? = some m := by
    intro z
    cases z with
    | finite s q hq => exact .inr ⟨rfl, _, rfl⟩
    | infinite s => exact .inr ⟨rfl, _, rfl⟩
    | nan => exact .inl rfl
  rcases hkey x with rfl | ⟨hx, m, hm⟩
  · rcases hkey y with rfl | ⟨hy, n, hn⟩
    · exact iff_of_true rfl rfl
    · rw [← magnitude?_float_eq_iff, hn, hy]
      exact iff_of_false Bool.false_ne_true nofun
  · rcases hkey y with rfl | ⟨hy, n, hn⟩
    · rw [← magnitude?_float_eq_iff, hm, hx, same.eq_def]
      dsimp only
      rw [hm]
      exact iff_of_false Bool.false_ne_true nofun
    · rw [← magnitude?_float_eq_iff, hx, hy, same_of_magnitude? hm hn, hm, hn, decide_eq_true_iff,
        Option.some.injEq]

/-- Two values of one kind are compared as the same exactly if they differ in no more than the sign of
    a zero. -/
theorem IsOf.same_key_iff {kind : Kind} (ha : IsOf kind a) (hb : IsOf kind b) :
    same a.key b.key ↔ a.settled = b.settled := by
  cases ha with
  | integer i =>
    cases hb with
    | integer j => exact (same_finite_iff rfl rfl).trans (integer.injEq i j).to_iff.symm
  | float x =>
    cases hb with
    | float y => exact (same_key_float_iff x y).trans (float.injEq _ _).to_iff.symm
  | boolean s =>
    cases hb with
    | boolean t =>
      refine (same_finite_iff (magnitude?_boolean s) (magnitude?_boolean t)).trans ?_
      cases s <;> cases t <;> simp [settled]
  | memory m =>
    cases hb with
    | memory n => exact (same_finite_iff rfl rfl).trans (size.injEq m n).to_iff.symm
  | clusterDuration d | duration d =>
    cases hb
    exact decide_eq_true_iff.trans (duration.injEq d _).to_iff.symm
  | string s =>
    cases hb with
    | string t => exact decide_eq_true_iff.trans (text.injEq s t).to_iff.symm
  | stringList items =>
    cases hb with
    | stringList others =>
      have hinjective : ∀ s t, text s = text t → s = t := fun s t heq => text.inj heq
      change sameAll _ _ ↔ tuple _ = tuple _
      rw [sameAll_map_text, decide_eq_true_iff, tuple.injEq, List.map_inj_right hinjective]

end Value

namespace Expression

variable {e f g : Expression}

/-- The expression has been read from a clause. -/
def Parsed (e : Expression) : Prop :=
  ∃ aliases clause, Clause.read aliases clause = .ok e

/-- The expression with one zero for both as its value. -/
def settled (e : Expression) : Expression :=
  { e with value := e.value.settled }

theorem Parsed.isOf (he : e.Parsed) : e.value.IsOf e.kind := by
  obtain ⟨aliases, clause, hread⟩ := he
  rcases Clause.read_eq_ok_cases hread with
    ⟨-, op, before, after, -, hlist⟩ | ⟨-, op, before, after, -, rfl⟩
  · rw [Clause.eq_of_readList_eq_ok hlist]
    exact .stringList _
  · exact Value.isOf_ofScalar _

/-- Expressions that have been read are the same exactly if they differ in no more than the sign of a
    zero. -/
theorem Parsed.same_iff (he : e.Parsed) (hf : f.Parsed) : e.same f ↔ e.settled = f.settled := by
  obtain ⟨field, op, value, kind⟩ := e
  obtain ⟨field', op', value', kind'⟩ := f
  simp only [same, settled, Bool.and_eq_true, decide_eq_true_eq, mk.injEq]
  constructor
  · rintro ⟨⟨⟨rfl, rfl⟩, hkey⟩, rfl⟩
    exact ⟨rfl, rfl, (he.isOf.same_key_iff hf.isOf).mp hkey, rfl⟩
  · rintro ⟨rfl, rfl, hvalue, rfl⟩
    exact ⟨⟨⟨rfl, rfl⟩, (he.isOf.same_key_iff hf.isOf).mpr hvalue⟩, rfl⟩

/-- Sameness is an equivalence of the expressions that have been read. -/
theorem equivalence_same : Equivalence fun e f : { e : Expression // e.Parsed } =>
    e.val.same f.val where
  refl e := (e.property.same_iff e.property).mpr rfl
  symm {e f} hsame :=
    (f.property.same_iff e.property).mpr ((e.property.same_iff f.property).mp hsame).symm
  trans {e f g} hfirst hsecond :=
    (e.property.same_iff g.property).mpr <|
      ((e.property.same_iff f.property).mp hfirst).trans
        ((f.property.same_iff g.property).mp hsecond)

/-- What has been read can be a member of a set. -/
theorem Parsed.exists_hash? (he : e.Parsed) (h : Hashing) : ∃ n, e.hash? h = some n := by
  suffices hkey : ∃ n, e.key.hash? h = some n by
    obtain ⟨n, hn⟩ := hkey
    rw [hash?, hn]
    exact ⟨_, rfl⟩
  obtain ⟨field, op, value, kind⟩ := e
  cases he.isOf with
  | float x => cases x <;> exact ⟨_, rfl⟩
  | stringList items =>
    have hitems : Value.hash? h (.tuple (items.map .text)) = some (h.row (items.map h.text)) := by
      rw [Value.hash?, Value.hashAll?_map_text, Option.map_some]
    exact ⟨_, hitems⟩
  | _ => exact ⟨_, rfl⟩

theorem hash?_eq_of_same (h : Hashing) (hsame : e.same f) : e.hash? h = f.hash? h := by
  simp only [same, Bool.and_eq_true, decide_eq_true_eq] at hsame
  obtain ⟨⟨⟨hfield, hop⟩, hkey⟩, hkind⟩ := hsame
  rw [hash?, hash?, hfield, hop, hkind, Value.hash?_eq_of_same h _ _ hkey]

theorem text_settled (e : Expression) : e.settled.text = e.text := by
  obtain ⟨field, op, value, kind⟩ := e
  cases value with
  | float x =>
    have hdisplay := Value.display_settled (.float x)
    rw [Value.settled] at hdisplay
    simp only [settled, Value.settled, text, hdisplay]
  | _ => rfl

theorem holds_settled (e : Expression) (record : Record) :
    e.settled.holds record = e.holds record := by
  rw [holds, holds, settled]
  cases record.lookup e.field with
  | none => rfl
  | some value => exact e.operator.holds_settled value e.value

end Expression

end RecordFilter
