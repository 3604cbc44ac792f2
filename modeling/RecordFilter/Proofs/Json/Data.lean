import Mathlib.Data.List.Nodup
import RecordFilter.Json.Writer
import RecordFilter.Proofs.Json.Readings
import RecordFilter.Proofs.Value.Display

/-!
Data: what a text in JSON can hold.

Whatever is read of a text is data, and data are what is read back after they have been written.
-/

namespace RecordFilter.Json

/-- Each name belongs to one member only. -/
def NamesOnce (entries : List (Text × Value)) : Prop :=
  (entries.map Prod.fst).Nodup

theorem namesOnce_nil : NamesOnce [] :=
  List.nodup_nil

variable {name : Text} {v : Value} {entries pairs : List (Text × Value)}

theorem put_of_not_mem (hname : name ∉ entries.map Prod.fst) :
    put name v entries = entries ++ [(name, v)] := by
  induction entries with
  | nil => rfl
  | cons entry entries ih =>
    rw [List.map_cons, List.mem_cons, not_or] at hname
    rw [put, if_neg (Ne.symm hname.1), ih hname.2, List.cons_append]

theorem names_put_of_mem (hname : name ∈ entries.map Prod.fst) :
    (put name v entries).map Prod.fst = entries.map Prod.fst := by
  induction entries with
  | nil => cases hname
  | cons entry entries ih =>
    rw [put]
    split
    · rename_i hsame
      rw [List.map_cons, List.map_cons, hsame]
    · rename_i hne
      rw [List.map_cons, List.mem_cons] at hname
      rw [List.map_cons, List.map_cons, ih (hname.resolve_left (Ne.symm hne))]

theorem namesOnce_put (name : Text) (v : Value) (hentries : NamesOnce entries) :
    NamesOnce (put name v entries) := by
  by_cases hname : name ∈ entries.map Prod.fst
  · rw [NamesOnce, names_put_of_mem hname]
    exact hentries
  · rw [NamesOnce, put_of_not_mem hname, List.map_append, List.nodup_append']
    exact ⟨hentries, List.nodup_singleton name, by simpa using hname⟩

theorem mem_put {entry : Text × Value} (hentry : entry ∈ put name v entries) :
    entry = (name, v) ∨ entry ∈ entries := by
  induction entries with
  | nil => exact Or.inl (List.mem_singleton.mp hentry)
  | cons first entries ih =>
    rw [put] at hentry
    split at hentry
    · exact (List.mem_cons.mp hentry).imp_right (List.mem_cons_of_mem _)
    · rcases List.mem_cons.mp hentry with rfl | hentry
      · exact Or.inr List.mem_cons_self
      · exact (ih hentry).imp_right (List.mem_cons_of_mem _)

private theorem foldl_put (pairs : List (Text × Value)) (hentries : NamesOnce entries) :
    NamesOnce (pairs.foldl (fun entries pair => put pair.1 pair.2 entries) entries) ∧
      ∀ entry ∈ pairs.foldl (fun entries pair => put pair.1 pair.2 entries) entries,
        entry ∈ entries ∨ entry ∈ pairs := by
  induction pairs generalizing entries with
  | nil => exact ⟨hentries, fun _ => Or.inl⟩
  | cons pair pairs ih =>
    obtain ⟨honce, hmem⟩ := ih (namesOnce_put pair.1 pair.2 hentries)
    refine ⟨honce, fun entry hentry => ?_⟩
    rcases hmem entry hentry with hput | hlater
    · rcases mem_put hput with rfl | hbefore
      · exact Or.inr List.mem_cons_self
      · exact Or.inl hbefore
    · exact Or.inr (List.mem_cons_of_mem _ hlater)

theorem namesOnce_membersOf (pairs : List (Text × Value)) : NamesOnce (membersOf pairs) :=
  (foldl_put pairs namesOnce_nil).1

theorem mem_of_mem_membersOf {entry : Text × Value} (hentry : entry ∈ membersOf pairs) :
    entry ∈ pairs :=
  ((foldl_put pairs namesOnce_nil).2 entry hentry).resolve_left List.not_mem_nil

/-- Members each of which has a name of its own stay as they are. -/
theorem membersOf_eq_self (hpairs : NamesOnce pairs) : membersOf pairs = pairs := by
  have hstep : ∀ (entries rest : List (Text × Value)), NamesOnce (entries ++ rest) →
      rest.foldl (fun entries pair => put pair.1 pair.2 entries) entries = entries ++ rest := by
    intro entries rest
    induction rest generalizing entries with
    | nil => exact fun _ => (List.append_nil entries).symm
    | cons pair rest ih =>
      intro honce
      have hpair : pair.1 ∉ entries.map Prod.fst := by
        rw [NamesOnce, List.map_append, List.nodup_append'] at honce
        exact fun hmem => honce.2.2 hmem List.mem_cons_self
      have hsplit : entries ++ pair :: rest = entries ++ [pair] ++ rest := List.append_cons ..
      rw [hsplit] at honce ⊢
      rw [List.foldl_cons, put_of_not_mem hpair]
      exact ih _ honce
  exact hstep [] pairs hpairs

/-- What a text in JSON can hold. No integer has more digits than are converted, and each name
    belongs to one member of an object only. -/
inductive IsData : Value → Prop
  | plain {v : Value} (hv : IsPlain v) : IsData v
  | text (t : Text) : IsData (.text t)
  | list {items : List Value} (hitems : ∀ item ∈ items, IsData item) : IsData (.list items)
  | dict {entries : List (Text × Value)} (hnames : NamesOnce entries)
      (hentries : ∀ entry ∈ entries, IsData entry.2) : IsData (.dict entries)

/-- All that has been read is data. -/
def Reading.IsData : Reading → Prop
  | .value v => Json.IsData v
  | .items found => ∀ item ∈ found, Json.IsData item
  | .members pairs => ∀ pair ∈ pairs, Json.IsData pair.2

theorem Reads.isData {room : Nat} {t rest : Text} {r : Reading} (hread : Reads room t r rest) :
    r.IsData := by
  induction hread with
  | plain _ hplain => exact .plain (isPlain_of_readPlain hplain)
  | text _ => exact .text _
  | emptyList _ => exact .list nofun
  | list _ ih => exact .list ih
  | emptyDict _ => exact .dict namesOnce_nil nofun
  | dict _ ih =>
    exact .dict (namesOnce_membersOf _) fun entry hentry => ih entry (mem_of_mem_membersOf hentry)
  | lastItem _ _ ih => exact List.forall_mem_singleton.mpr ih
  | item _ _ _ ihitem ihitems => exact List.forall_mem_cons.mpr ⟨ihitem, ihitems⟩
  | lastMember _ _ _ _ ih => exact List.forall_mem_singleton.mpr ih
  | member _ _ _ _ _ ihvalue ihpairs => exact List.forall_mem_cons.mpr ⟨ihvalue, ihpairs⟩

theorem isData_of_read {t : Text} (hread : read t = .ok v) : IsData v := by
  obtain ⟨rest, hreads, -⟩ := read_eq_ok_iff.mp hread
  exact hreads.isData

theorem anyLongNumber_eq (items : List Value) : anyLongNumber items = items.any hasLongNumber := by
  induction items with
  | nil => rfl
  | cons item items ih => rw [anyLongNumber, ih, List.any_cons]

theorem anyLongMember_eq (entries : List (Text × Value)) :
    anyLongMember entries = entries.any (hasLongNumber ·.2) := by
  induction entries with
  | nil => rfl
  | cons entry entries ih => rw [anyLongMember, ih, List.any_cons]

theorem IsData.hasLongNumber_eq_false (hv : IsData v) : hasLongNumber v = false := by
  induction hv with
  | plain hv =>
    cases hv with
    | integer hi =>
      rw [hasLongNumber, writtenLimit_eq]
      exact decide_eq_false (Nat.not_le.mpr hi)
    | _ => rfl
  | text t => rfl
  | list _ ih =>
    rw [hasLongNumber, anyLongNumber_eq, List.any_eq_false]
    exact fun item hitem => by simp [ih item hitem]
  | dict _ _ ih =>
    rw [hasLongNumber, anyLongMember_eq, List.any_eq_false]
    exact fun entry hentry => by simp [ih entry hentry]

/-- A code of the first half of a pair that makes up one character. -/
def isFirstHalf (code : Nat) : Bool :=
  0xD800 ≤ code && code < 0xDC00

/-- A code of the second half of a pair. -/
def isSecondHalf (code : Nat) : Bool :=
  0xDC00 ≤ code && code < 0xE000

/-- Whether the halves in the escapes of a text come in pairs, where a first half stands directly
    before the text or none does. -/
def pairsHalves (first : Bool) : Text → Bool
  | '\\' :: 'u' :: a :: b :: c :: d :: rest =>
    match readCode [a, b, c, d] with
    | .ok (code, _) => first == isSecondHalf code && pairsHalves (isFirstHalf code) rest
    | .error _ => false
  | '\\' :: _ :: rest => !first && pairsHalves false rest
  | _ :: rest => !first && pairsHalves false rest
  | [] => !first

/-- The text is read as the value, and all its escapes are characters. For half of a pair, a mark is
    read that the text does not mean. -/
structure Spells (t : Text) (v : Value) : Prop where
  read_eq : read t = .ok v
  paired : pairsHalves false t = true

theorem isData_texts (texts : List Text) : IsData (.list (texts.map .text)) := by
  refine .list fun item hitem => ?_
  obtain ⟨t, -, rfl⟩ := List.mem_map.mp hitem
  exact .text t

theorem isData_ofText? (t : Option Text) : IsData (.ofText? t) := by
  cases t with
  | none => exact .plain .null
  | some t => exact .text t

theorem height_ofText? (t : Option Text) : height (.ofText? t) = 1 := by
  cases t <;> rfl

end RecordFilter.Json
