import RecordFilter.Text.Basic

/-!
Searching and replacing: where a pattern occurs in a text that is put together of several.

A part in which no occurrence begins is passed over by every search (`Clear`). An occurrence without
the character at a joint lies on one side of the joint.
-/

namespace RecordFilter.Text

/-- What holds of every character of a text is decided along the text, instead of for all
    characters there are. -/
instance (priority := high) decidableForallMem (t : Text) (p : Char → Prop) [DecidablePred p] :
    Decidable (∀ c ∈ t, p c) :=
  List.decidableBAll p t

instance (priority := high) decidableForallMemOption (o : Option Char) (p : Char → Prop)
    [DecidablePred p] : Decidable (∀ c ∈ o, p c) :=
  Option.decidableForallMem o

theorem isPrefix_of_append_cons {p a b : Text} {c : Char} (hc : c ∉ p)
    (hbegins : p <+: a ++ c :: b) : p <+: a := by
  induction a generalizing p with
  | nil =>
    cases p with
    | nil => exact List.nil_prefix
    | cons d p =>
      obtain ⟨hd, _⟩ := List.cons_prefix_cons.mp hbegins
      exact absurd (hd ▸ List.mem_cons_self) hc
  | cons d a ih =>
    cases p with
    | nil => exact List.nil_prefix
    | cons e p =>
      obtain ⟨he, hrest⟩ := List.cons_prefix_cons.mp hbegins
      have htail := ih (fun hmem => hc (List.mem_cons_of_mem _ hmem)) hrest
      exact List.cons_prefix_cons.mpr ⟨he, htail⟩

/-- A pattern without the character at a joint occurs on one side of it. -/
theorem isInfix_append_cons_iff {p a b : Text} {c : Char} (hc : c ∉ p) :
    p <:+: a ++ c :: b ↔ p <:+: a ∨ p <:+: b := by
  constructor
  · intro hoccurs
    induction a with
    | nil =>
      rcases List.infix_cons_iff.mp hoccurs with hbegins | htail
      · have hnil := isPrefix_of_append_cons (a := []) hc hbegins
        exact Or.inl hnil.isInfix
      · exact Or.inr htail
    | cons d a ih =>
      rcases List.infix_cons_iff.mp hoccurs with hbegins | htail
      · have hfirst := isPrefix_of_append_cons (a := d :: a) hc hbegins
        exact Or.inl hfirst.isInfix
      · rcases ih htail with h | h
        · exact Or.inl (List.infix_cons h)
        · exact Or.inr h
  · rintro (h | h)
    · exact List.infix_append_of_infix_left h
    · exact List.infix_append_of_infix_right (List.infix_cons h)

/-- A pattern that shares no character with the last part occurs before it. -/
theorem isInfix_of_append_left {p m b : Text} (hb : ∀ c ∈ p, c ∉ b) (hoccurs : p <:+: m ++ b) :
    p <:+: m := by
  rcases List.infix_append_iff.mp hoccurs with h | h | ⟨first, second, hp, hfirst, hsecond⟩
  · exact h
  · cases p with
    | nil => exact List.nil_infix
    | cons c p => exact absurd (h.subset List.mem_cons_self) (hb c List.mem_cons_self)
  · cases second with
    | nil =>
      rw [List.append_nil] at hp
      exact hp ▸ hfirst.isInfix
    | cons c second =>
      exact absurd (hsecond.subset List.mem_cons_self) (hb c (by simp [hp]))

/-- A pattern that shares no character with the first part occurs after it. -/
theorem isInfix_of_append_right {p a m : Text} (ha : ∀ c ∈ p, c ∉ a) (hoccurs : p <:+: a ++ m) :
    p <:+: m := by
  have hreverse : p.reverse <:+: m.reverse ++ a.reverse := by
    rw [← List.reverse_append]
    exact List.reverse_infix.mpr hoccurs
  have hmiddle := isInfix_of_append_left (by simpa using ha) hreverse
  exact List.reverse_infix.mp hmiddle

/-- No occurrence of the pattern in `a ++ b` begins in `a`. -/
def Clear (pattern : Text) : Text → Text → Prop
  | [], _ => True
  | c :: a, b => ¬ pattern <+: c :: (a ++ b) ∧ Clear pattern a b

theorem clear_of_not_mem {c : Char} {p a b : Text} (hc : c ∉ a) : Clear (c :: p) a b := by
  induction a with
  | nil => trivial
  | cons d a ih =>
    refine ⟨?_, ih fun hmem => hc (List.mem_cons_of_mem _ hmem)⟩
    intro hbegins
    obtain ⟨hd, _⟩ := List.cons_prefix_cons.mp hbegins
    exact hc (hd ▸ List.mem_cons_self)

/-- A pattern does not occur in a joined text if no occurrence begins in the first part and none is
    in the second. -/
theorem not_isInfix_append_iff {p a b : Text} :
    ¬ p <:+: a ++ b ↔ Clear p a b ∧ ¬ p <:+: b := by
  induction a with
  | nil => simp [Clear]
  | cons c a ih => rw [List.cons_append, List.infix_cons_iff, not_or, ih, Clear, and_assoc]

theorem clear_of_not_isInfix {p a b : Text} (hp : ¬ p <:+: a ++ b) : Clear p a b :=
  (not_isInfix_append_iff.mp hp).1

theorem clear_append_iff {p a b t : Text} :
    Clear p (a ++ b) t ↔ Clear p a (b ++ t) ∧ Clear p b t := by
  induction a with
  | nil => simp [Clear]
  | cons c a ih => rw [List.cons_append, Clear, Clear, ih, List.append_assoc, and_assoc]

theorem cut?_append_of_clear {p a b : Text} (hclear : Clear p a b) :
    cut? p (a ++ b) = (cut? p b).map (Prod.map (a ++ ·) id) := by
  induction a with
  | nil =>
    rw [List.nil_append]
    cases cut? p b <;> rfl
  | cons c a ih =>
    obtain ⟨hc, hrest⟩ := hclear
    have hfalse : ¬ p.isPrefixOf (c :: (a ++ b)) = true := by
      rwa [List.isPrefixOf_iff_prefix]
    rw [List.cons_append, cut?, if_neg hfalse, ih hrest]
    cases cut? p b <;> rfl

theorem cut?_append_self {p b : Text} : cut? p (p ++ b) = some ([], b) := by
  cases p with
  | nil => cases b <;> simp [cut?]
  | cons c p => simp [cut?]

theorem cut?_eq_none_iff {p t : Text} : cut? p t = none ↔ ¬ p <:+: t := by
  induction t with
  | nil => cases p <;> simp [cut?]
  | cons c t ih =>
    rw [cut?, List.infix_cons_iff]
    by_cases hbegins : p <+: c :: t
    · simp [hbegins]
    · simp [hbegins, ih]

theorem eq_append_of_cut?_eq_some {p t before after : Text}
    (hcut : cut? p t = some (before, after)) : t = before ++ (p ++ after) := by
  induction t generalizing before with
  | nil => cases p <;> simp_all [cut?]
  | cons c t ih =>
    by_cases hbegins : p <+: c :: t
    · obtain ⟨rest, hrest⟩ := hbegins
      rw [← hrest, cut?_append_self] at hcut
      obtain ⟨rfl, rfl⟩ := hcut
      exact hrest.symm
    · rw [cut?, if_neg (by simpa using hbegins)] at hcut
      obtain ⟨⟨first, last⟩, hrest, hpair⟩ := Option.map_eq_some_iff.mp hcut
      obtain ⟨rfl, rfl⟩ := hpair
      rw [List.cons_append, ← ih hrest]

private theorem replaceFrom_eq_drop (p r : Text) (skip : Nat) (t : Text) :
    replaceFrom p r skip t = replaceAll p r (t.drop skip) := by
  induction skip generalizing t with
  | zero => rfl
  | succ skip ih =>
    cases t with
    | nil => rfl
    | cons c t => exact ih t

theorem replaceAll_cons_of_not_isPrefix {p r t : Text} {c : Char} (hp : ¬ p <+: c :: t) :
    replaceAll p r (c :: t) = c :: replaceAll p r t := by
  have hfalse : ¬ p.isPrefixOf (c :: t) = true := by
    rwa [List.isPrefixOf_iff_prefix]
  rw [replaceAll, replaceFrom, if_neg hfalse]
  rfl

theorem replaceAll_append_self {p r b : Text} (hp : p ≠ []) :
    replaceAll p r (p ++ b) = r ++ replaceAll p r b := by
  cases p with
  | nil => exact absurd rfl hp
  | cons c p =>
    have htrue : (c :: p).isPrefixOf (c :: (p ++ b)) = true :=
      List.isPrefixOf_iff_prefix.mpr (List.prefix_append (c :: p) b)
    rw [List.cons_append, replaceAll, replaceFrom, if_pos htrue, replaceFrom_eq_drop]
    simp

theorem replaceAll_append_of_clear {p r a b : Text} (hclear : Clear p a b) :
    replaceAll p r (a ++ b) = a ++ replaceAll p r b := by
  induction a with
  | nil => rfl
  | cons c a ih =>
    obtain ⟨hc, hrest⟩ := hclear
    rw [List.cons_append, replaceAll_cons_of_not_isPrefix hc, ih hrest, List.cons_append]

theorem replaceAll_eq_self {p r t : Text} (hp : ¬ p <:+: t) : replaceAll p r t = t := by
  have hclear : Clear p t [] := clear_of_not_isInfix (by simpa using hp)
  simpa [replaceAll, replaceFrom] using replaceAll_append_of_clear (r := r) hclear

/-- A text is walked as a replacement walks it: past an occurrence of the pattern where one begins,
    and past one character elsewhere. -/
@[elab_as_elim]
theorem occurrence_induction {p : Text} (hp : p ≠ []) {motive : Text → Prop} (nil : motive [])
    (found : ∀ rest, motive rest → motive (p ++ rest))
    (skipped : ∀ c rest, ¬ p <+: c :: rest → motive rest → motive (c :: rest)) (t : Text) :
    motive t := by
  obtain ⟨n, hn⟩ : ∃ n, t.length = n := ⟨_, rfl⟩
  induction n using Nat.strongRecOn generalizing t with
  | ind n ih =>
    by_cases hbegins : p <+: t
    · obtain ⟨rest, rfl⟩ := hbegins
      have hpos : 0 < p.length := List.length_pos_iff.mpr hp
      rw [List.length_append] at hn
      exact found rest (ih rest.length (by omega) rest rfl)
    · cases t with
      | nil => exact nil
      | cons c t =>
        rw [List.length_cons] at hn
        exact skipped c t hbegins (ih t.length (by omega) t rfl)

theorem replaceAll_self {p t : Text} (hp : p ≠ []) : replaceAll p p t = t := by
  induction t using occurrence_induction hp with
  | nil => rfl
  | found rest ih => rw [replaceAll_append_self hp, ih]
  | skipped c rest hskip ih => rw [replaceAll_cons_of_not_isPrefix hskip, ih]

/-- A text without the first character of the replacement begins a text after the replacing if it
    does so before, and no occurrence of the pattern begins in it. -/
theorem isPrefix_replaceAll_iff {p r q t : Text} {c : Char} (hp : p ≠ [])
    (hr : r.head? = some c) (hq : c ∉ q) :
    q <+: replaceAll p r t ↔ ∃ rest, t = q ++ rest ∧ Clear p q rest := by
  induction q generalizing t with
  | nil => simp [Clear]
  | cons d q ih =>
    rw [List.mem_cons, not_or] at hq
    have htail := fun t => @ih t hq.2
    cases t with
    | nil => simp [replaceAll, replaceFrom]
    | cons e t =>
      by_cases hbegins : p <+: e :: t
      · obtain ⟨last, hlast⟩ := hbegins
        obtain ⟨r, rfl⟩ := List.head?_eq_some_iff.mp hr
        constructor
        · intro hreplaced
          rw [← hlast, replaceAll_append_self hp] at hreplaced
          obtain ⟨rfl, -⟩ := List.cons_prefix_cons.mp hreplaced
          exact absurd rfl hq.1
        · rintro ⟨rest, heq, hclear, -⟩
          exact absurd ⟨last, hlast.trans heq⟩ hclear
      · rw [replaceAll_cons_of_not_isPrefix hbegins, List.cons_prefix_cons, htail]
        constructor
        · rintro ⟨rfl, rest, rfl, hclear⟩
          exact ⟨rest, rfl, hbegins, hclear⟩
        · rintro ⟨rest, heq, -, hclear⟩
          obtain ⟨rfl, rfl⟩ := List.cons.inj heq
          exact ⟨rfl, rest, rfl, hclear⟩

/-- A character that the pattern does not have stays where it is, and each side is replaced for
    itself. -/
theorem replaceAll_append_cons {p r a b : Text} {c : Char} (hp : p ≠ []) (hc : c ∉ p) :
    replaceAll p r (a ++ c :: b) = replaceAll p r a ++ c :: replaceAll p r b := by
  induction a using occurrence_induction hp with
  | nil =>
    apply replaceAll_cons_of_not_isPrefix
    intro hbegins
    exact hp (List.prefix_nil.mp (isPrefix_of_append_cons (a := []) hc hbegins))
  | found rest ih =>
    rw [List.append_assoc, replaceAll_append_self hp, replaceAll_append_self hp, ih,
      List.append_assoc]
  | skipped d rest hbegins ih =>
    have hlonger : ¬ p <+: d :: (rest ++ c :: b) :=
      fun h => hbegins (isPrefix_of_append_cons (a := d :: rest) hc h)
    rw [List.cons_append, replaceAll_cons_of_not_isPrefix hlonger,
      replaceAll_cons_of_not_isPrefix hbegins, ih, List.cons_append]

/-- A text that shares no character with the pattern stays where it is, and each side is replaced
    for itself. -/
theorem replaceAll_append_disjoint {p r s : Text} (hp : p ≠ []) (hs : s ≠ [])
    (hdisjoint : ∀ c ∈ s, c ∉ p) (a b : Text) :
    replaceAll p r (a ++ (s ++ b)) = replaceAll p r a ++ (s ++ replaceAll p r b) := by
  induction s generalizing a with
  | nil => exact absurd rfl hs
  | cons c s ih =>
    rw [List.cons_append, replaceAll_append_cons hp (hdisjoint c List.mem_cons_self)]
    cases s with
    | nil => rfl
    | cons d s =>
      have hrest := ih (List.cons_ne_nil d s)
        (fun e he => hdisjoint e (List.mem_cons_of_mem c he)) []
      rw [List.nil_append] at hrest
      rw [hrest]
      rfl

/-- What a text has after a replacement comes from the text or from the replacement. -/
theorem mem_or_mem_of_mem_replaceAll {p r t : Text} {c : Char} (hp : p ≠ [])
    (hc : c ∈ replaceAll p r t) : c ∈ t ∨ c ∈ r := by
  induction t using occurrence_induction hp with
  | nil => cases hc
  | found rest ih =>
    rw [replaceAll_append_self hp, List.mem_append] at hc
    rcases hc with hc | hc
    · exact Or.inr hc
    · exact (ih hc).imp_left fun h => List.mem_append_right p h
  | skipped d rest hbegins ih =>
    rw [replaceAll_cons_of_not_isPrefix hbegins, List.mem_cons] at hc
    rcases hc with rfl | hc
    · exact Or.inl List.mem_cons_self
    · exact (ih hc).imp_left fun h => List.mem_cons_of_mem d h

/-- What the replacement has some character of is not lost in a replacement. -/
theorem exists_mem_replaceAll {p r t : Text} {q : Char → Prop} (hp : p ≠ [])
    (hr : ∃ c ∈ r, q c) (ht : ∃ c ∈ t, q c) : ∃ c ∈ replaceAll p r t, q c := by
  induction t using occurrence_induction hp with
  | nil => exact ht
  | found rest ih =>
    obtain ⟨c, hc, hqc⟩ := hr
    rw [replaceAll_append_self hp]
    exact ⟨c, List.mem_append_left _ hc, hqc⟩
  | skipped d rest hskip ih =>
    rw [replaceAll_cons_of_not_isPrefix hskip]
    obtain ⟨c, hc, hqc⟩ := ht
    rcases List.mem_cons.mp hc with rfl | hc
    · exact ⟨c, List.mem_cons_self, hqc⟩
    · obtain ⟨e, he, hqe⟩ := ih ⟨c, hc, hqc⟩
      exact ⟨e, List.mem_cons_of_mem d he, hqe⟩

/-- A text in which the pattern occurs holds the replacement afterwards. -/
theorem isInfix_replaceAll {p r t : Text} (hp : p ≠ []) (hoccurs : p <:+: t) :
    r <:+: replaceAll p r t := by
  induction t with
  | nil => exact absurd (List.infix_nil.mp hoccurs) hp
  | cons c t ih =>
    by_cases hbegins : p <+: c :: t
    · obtain ⟨rest, hrest⟩ := hbegins
      rw [← hrest, replaceAll_append_self hp]
      exact (List.prefix_append r _).isInfix
    · have htail : p <:+: t := (List.infix_cons_iff.mp hoccurs).resolve_left hbegins
      rw [replaceAll_cons_of_not_isPrefix hbegins]
      exact List.infix_cons (ih htail)

/-- A text that shares no character with the pattern is found again where it was. -/
theorem isInfix_replaceAll_of_disjoint {p r q t : Text} (hp : p ≠ []) (hq : ∀ c ∈ q, c ∉ p)
    (hoccurs : q <:+: t) : q <:+: replaceAll p r t := by
  obtain ⟨before, after, rfl⟩ := hoccurs
  have hkept : ∀ b, q <+: replaceAll p r (q ++ b) := by
    intro b
    induction q with
    | nil => exact List.nil_prefix
    | cons c q ih =>
      have hstep := replaceAll_append_cons (r := r) (a := []) (b := q ++ b) hp
        (hq c List.mem_cons_self)
      rw [List.nil_append] at hstep
      rw [List.cons_append, hstep]
      exact List.cons_prefix_cons.mpr ⟨rfl, ih fun d hd => hq d (List.mem_cons_of_mem _ hd)⟩
  cases q with
  | nil => exact List.nil_infix
  | cons c q =>
    have hstep := replaceAll_append_cons (r := r) (a := before) (b := q ++ after) hp
      (hq c List.mem_cons_self)
    have htail := hkept after
    rw [List.cons_append, ← List.nil_append (c :: (q ++ after)),
      replaceAll_append_cons hp (hq c List.mem_cons_self)] at htail
    rw [List.append_assoc, List.cons_append, hstep]
    exact List.infix_append_of_infix_right htail.isInfix

/-- The pattern occurs in the text in such a way that it covers a place. -/
def OccursOver (pattern text : Text) (place : Nat) : Prop :=
  ∃ start, start ≤ place ∧ place < start + pattern.length ∧ pattern <+: text.drop start

instance (pattern text : Text) (place : Nat) : Decidable (OccursOver pattern text place) :=
  inferInstanceAs (Decidable
    (∃ start, start ≤ place ∧ place < start + pattern.length ∧ pattern <+: text.drop start))

theorem OccursOver.append_left {p t : Text} {place : Nat} (hover : OccursOver p t place)
    (a : Text) : OccursOver p (a ++ t) (a.length + place) := by
  obtain ⟨start, hle, hlt, hbegins⟩ := hover
  refine ⟨a.length + start, by omega, by omega, ?_⟩
  rwa [List.drop_append, List.drop_eq_nil_of_le (by omega), List.nil_append,
    Nat.add_sub_cancel_left]

/-- An occurrence of the pattern in `a ++ b` that begins in `a`, or where `a` ends, is over in
    `a`. -/
def Apart (pattern a b : Text) : Prop :=
  ∀ s, s <:+ a → pattern <+: s ++ b → pattern <+: s

theorem apart_of_not_occursOver {p a b : Text} (hover : ¬ OccursOver p (a ++ b) a.length) :
    Apart p a b := by
  intro s hends hbegins
  obtain ⟨start, rfl⟩ := hends
  by_cases hlength : p.length ≤ s.length
  · exact List.prefix_of_prefix_length_le hbegins (List.prefix_append s b) hlength
  · refine absurd ⟨start.length, ?_, ?_, ?_⟩ hover
    · simp
    · rw [List.length_append]
      omega
    · simpa using hbegins

/-- Each side of a joint is replaced for itself if no occurrence covers the joint. -/
theorem replaceAll_append_of_apart {p r a b : Text} (hp : p ≠ []) (hapart : Apart p a b) :
    replaceAll p r (a ++ b) = replaceAll p r a ++ replaceAll p r b := by
  induction a using occurrence_induction hp with
  | nil => rfl
  | found rest ih =>
    have hrest : Apart p rest b := fun s hs => hapart s (hs.trans (List.suffix_append p rest))
    rw [List.append_assoc, replaceAll_append_self hp, replaceAll_append_self hp, ih hrest,
      List.append_assoc]
  | skipped c rest hbegins ih =>
    have hrest : Apart p rest b := fun s hs => hapart s (hs.trans (List.suffix_cons c rest))
    have hlonger : ¬ p <+: c :: (rest ++ b) := fun h => hbegins (hapart _ (List.suffix_refl _) h)
    rw [List.cons_append, replaceAll_cons_of_not_isPrefix hlonger,
      replaceAll_cons_of_not_isPrefix hbegins, ih hrest, List.cons_append]

/-- A text that shares no character with the replacement begins a text if it does so after the
    replacing. -/
theorem isPrefix_of_isPrefix_replaceAll {p r q t : Text} (hp : p ≠ []) (hr : r ≠ [])
    (hq : ∀ c ∈ q, c ∉ r) (hbegins : q <+: replaceAll p r t) : q <+: t := by
  induction t using occurrence_induction hp generalizing q with
  | nil => exact hbegins
  | found rest _ =>
    obtain ⟨d, r, rfl⟩ := List.exists_cons_of_ne_nil hr
    cases q with
    | nil => exact List.nil_prefix
    | cons c q =>
      rw [replaceAll_append_self hp] at hbegins
      obtain ⟨rfl, _⟩ := List.cons_prefix_cons.mp hbegins
      exact absurd List.mem_cons_self (hq c List.mem_cons_self)
  | skipped d rest hskip ih =>
    cases q with
    | nil => exact List.nil_prefix
    | cons c q =>
      rw [replaceAll_cons_of_not_isPrefix hskip] at hbegins
      obtain ⟨hc, hrest⟩ := List.cons_prefix_cons.mp hbegins
      have htail := ih (fun d hd => hq d (List.mem_cons_of_mem _ hd)) hrest
      exact List.cons_prefix_cons.mpr ⟨hc, htail⟩

/-- A text that shares no character with the replacement ends a text if it does so after the
    replacing. -/
theorem isSuffix_of_isSuffix_replaceAll {p r q t : Text} (hp : p ≠ []) (hr : r ≠ [])
    (hq : ∀ c ∈ q, c ∉ r) (hends : q <:+ replaceAll p r t) : q <:+ t := by
  induction t using occurrence_induction hp with
  | nil => exact hends
  | found rest ih =>
    rw [replaceAll_append_self hp] at hends
    refine (ih ?_).trans (List.suffix_append p rest)
    rcases List.suffix_or_suffix_of_suffix hends (List.suffix_append r _) with h | ⟨first, rfl⟩
    · exact h
    · obtain ⟨start, hstart⟩ := hends
      rw [← List.append_assoc, List.append_cancel_right_eq] at hstart
      cases first with
      | nil => exact List.suffix_refl _
      | cons c first =>
        have hmem : c ∈ r := hstart ▸ List.mem_append_right start List.mem_cons_self
        exact absurd hmem (hq c List.mem_cons_self)
  | skipped d rest hskip ih =>
    by_cases hwhole : q = replaceAll p r (d :: rest)
    · have hnone : ¬ p <:+: d :: rest := by
        intro hoccurs
        obtain ⟨c, tail, rfl⟩ := List.exists_cons_of_ne_nil hr
        have hmem : c ∈ q := hwhole ▸ (isInfix_replaceAll hp hoccurs).subset List.mem_cons_self
        exact hq c hmem List.mem_cons_self
      exact ⟨[], hwhole.trans (replaceAll_eq_self hnone)⟩
    · rw [replaceAll_cons_of_not_isPrefix hskip] at hends hwhole
      have htail := (List.suffix_cons_iff.mp hends).resolve_left hwhole
      exact (ih htail).trans (List.suffix_cons d rest)

/-- A text that shares no character with the replacement occurs in a text if it does so after the
    replacing. -/
theorem isInfix_of_isInfix_replaceAll {p r q t : Text} (hp : p ≠ []) (hr : r ≠ [])
    (hq : ∀ c ∈ q, c ∉ r) (hoccurs : q <:+: replaceAll p r t) : q <:+: t := by
  induction t using occurrence_induction hp with
  | nil => exact hoccurs
  | found rest ih =>
    rw [replaceAll_append_self hp] at hoccurs
    have hrest := ih (isInfix_of_append_right hq hoccurs)
    exact hrest.trans (List.suffix_append p rest).isInfix
  | skipped d rest hskip ih =>
    have hcons := replaceAll_cons_of_not_isPrefix (r := r) hskip
    rw [hcons] at hoccurs
    rcases List.infix_cons_iff.mp hoccurs with hfirst | hlater
    · rw [← hcons] at hfirst
      exact (isPrefix_of_isPrefix_replaceAll hp hr hq hfirst).isInfix
    · exact (ih hlater).trans (List.suffix_cons d rest).isInfix

/-- Replacing a pattern by a part of it only deletes characters. -/
theorem replaceAll_sublist {p r : Text} (hp : p ≠ []) (hr : r.Sublist p) (t : Text) :
    (replaceAll p r t).Sublist t := by
  induction t using occurrence_induction hp with
  | nil => exact List.Sublist.refl []
  | found rest ih =>
    rw [replaceAll_append_self hp]
    exact hr.append ih
  | skipped d rest hskip ih =>
    rw [replaceAll_cons_of_not_isPrefix hskip]
    exact ih.cons_cons d

end RecordFilter.Text
