import Mathlib.Data.List.Find
import Mathlib.Data.List.Induction
import Mathlib.Data.List.Nodup
import Mathlib.Tactic.SplitIfs
import RecordFilter.Clause.Field
import RecordFilter.Proofs.Text.Lowering

/-!
Aliases that are entered one call after the other: which of several pairs for one name counts.

A table keeps the place of an alias that it has, and only afterwards are the aliases made small.
So the last pair of a call counts, except where it is written as the table already has it and another
spelling of it stands in the same call: that one is then further back in the table, and counts
(`Overtakes`).
-/

namespace RecordFilter.AliasTable

variable {name spelling key : Text} {entries pairs : List (Text × Text)} {table : AliasTable}

/-- The aliases of the table. -/
def names (table : AliasTable) : List Text :=
  table.entries.map Prod.fst

theorem put_of_not_mem (hspelling : spelling ∉ entries.map Prod.fst) :
    put spelling key entries = entries ++ [(spelling, key)] := by
  induction entries with
  | nil => rfl
  | cons entry entries ih =>
    rw [List.map_cons, List.mem_cons, not_or] at hspelling
    rw [put, if_neg (Ne.symm hspelling.1), ih hspelling.2, List.cons_append]

theorem put_append_of_mem (hspelling : spelling ∈ entries.map Prod.fst)
    (more : List (Text × Text)) :
    put spelling key (entries ++ more) = put spelling key entries ++ more := by
  induction entries with
  | nil => cases hspelling
  | cons entry entries ih =>
    rw [List.cons_append, put, put]
    split
    · rfl
    · rename_i hne
      have hmem := (List.mem_cons.mp hspelling).resolve_left (Ne.symm hne)
      rw [ih hmem, List.cons_append]

theorem map_fst_put_of_mem (hspelling : spelling ∈ entries.map Prod.fst) :
    (put spelling key entries).map Prod.fst = entries.map Prod.fst := by
  induction entries with
  | nil => cases hspelling
  | cons entry entries ih =>
    rw [put]
    split
    · rename_i heq
      rw [List.map_cons, List.map_cons, heq]
    · rename_i hne
      have hmem := (List.mem_cons.mp hspelling).resolve_left (Ne.symm hne)
      rw [List.map_cons, List.map_cons, ih hmem]

theorem lookup_put (name : Text) :
    (put spelling key entries).lookup name =
      if spelling = name then some key else entries.lookup name := by
  induction entries with
  | nil =>
    rw [put]
    split_ifs with hname
    · rw [hname, List.lookup_cons_self]
    · rw [List.lookup_cons]
      simp only [beq_eq_false_iff_ne.mpr (Ne.symm hname)]
  | cons entry entries ih =>
    rw [put]
    split_ifs with hentry hname hname
    · rw [hname, List.lookup_cons_self]
    · rw [List.lookup_cons, List.lookup_cons, hentry]
      simp only [beq_eq_false_iff_ne.mpr (Ne.symm hname)]
    · rw [List.lookup_cons, ih, if_pos hname]
      simp only [beq_eq_false_iff_ne.mpr fun heq : name = entry.1 =>
        hentry (heq.symm.trans hname.symm)]
    · rw [List.lookup_cons, List.lookup_cons, ih, if_neg hname]

theorem insertAll_append_singleton (pair : Text × Text) :
    table.insertAll (pairs ++ [pair]) = (table.insertAll pairs).insert pair.1 pair.2 :=
  List.foldl_concat ..

theorem find?_insertAll (name : Text) :
    (table.insertAll pairs).find? name =
      ((pairs.reverse.find? (·.1 = name)).map Prod.snd).or (table.find? name) := by
  induction pairs using List.reverseRecOn with
  | nil => rfl
  | append_singleton pairs pair ih =>
    rw [insertAll_append_singleton, find?, insert, lookup_put, List.reverse_concat, List.find?_cons]
    by_cases hname : pair.1 = name
    · simp [hname]
    · simp only [hname, if_false, decide_false]
      exact ih

/-- New aliases stand behind those of the table, in their order. -/
theorem exists_entries_insertAll (table : AliasTable) (hpairs : (pairs.map Prod.fst).Nodup) :
    ∃ front, (table.insertAll pairs).entries = front ++ pairs.filter (·.1 ∉ table.names) ∧
      front.map Prod.fst = table.names := by
  induction pairs using List.reverseRecOn with
  | nil => exact ⟨table.entries, (List.append_nil _).symm, rfl⟩
  | append_singleton pairs pair ih =>
    rw [List.map_append, List.nodup_append] at hpairs
    obtain ⟨hnodup, -, hnew⟩ := hpairs
    obtain ⟨front, hentries, hfront⟩ := ih hnodup
    rw [insertAll_append_singleton, insert, hentries, List.filter_append]
    by_cases hmem : pair.1 ∈ table.names
    · refine ⟨put pair.1 pair.2 front, ?_, ?_⟩
      · rw [put_append_of_mem (hfront ▸ hmem)]
        simp [hmem]
      · rw [map_fst_put_of_mem (hfront ▸ hmem), hfront]
    · refine ⟨front, ?_, hfront⟩
      rw [put_of_not_mem]
      · simp [hmem]
      · rw [List.map_append, hfront, List.mem_append, not_or]
        refine ⟨hmem, fun hlater => ?_⟩
        obtain ⟨other, hother, heq⟩ := List.mem_map.mp hlater
        exact hnew _ (List.mem_map_of_mem (List.mem_of_mem_filter hother)) pair.1
          List.mem_cons_self heq

/-- The last pair for a name, whatever letters its alias is spelled with. -/
def lastFor? (name : Text) (pairs : List (Text × Text)) : Option (Text × Text) :=
  pairs.reverse.find? fun pair => Text.lower pair.1 = name

theorem lastFor?_append (first second : List (Text × Text)) :
    lastFor? name (first ++ second) = (lastFor? name second).or (lastFor? name first) := by
  rw [lastFor?, List.reverse_append, List.find?_append, lastFor?, lastFor?]

theorem lastFor?_eq_none_iff :
    lastFor? name pairs = none ↔ ∀ pair ∈ pairs, Text.lower pair.1 ≠ name := by
  simp only [lastFor?, List.find?_eq_none, List.mem_reverse, decide_eq_true_eq, ne_eq]

/-- The pair is the last one for its name exactly if the pairs behind it are not for the name. -/
theorem lastFor?_eq_some_iff {pair : Text × Text} :
    lastFor? name pairs = some pair ↔ Text.lower pair.1 = name ∧
      ∃ first second, pairs = first ++ pair :: second ∧
        ∀ other ∈ second, Text.lower other.1 ≠ name := by
  rw [lastFor?, List.find?_eq_some_iff_append, decide_eq_true_eq]
  refine and_congr_right fun _ => ⟨?_, ?_⟩
  · rintro ⟨second, first, hpairs, hsecond⟩
    refine ⟨first.reverse, second.reverse, ?_, fun other hother => ?_⟩
    · rw [← List.reverse_reverse pairs, hpairs]
      simp
    · simpa using hsecond other (List.mem_reverse.mp hother)
  · rintro ⟨first, second, rfl, hsecond⟩
    refine ⟨second.reverse, first.reverse, by simp, fun other hother => ?_⟩
    simpa using hsecond other (List.mem_reverse.mp hother)

theorem find?_lowered (name : Text) :
    table.lowered.find? name = (lastFor? name table.entries).map Prod.snd := by
  rw [lowered, ofPairs, find?_insertAll, ← List.map_reverse, List.find?_map, Option.map_map]
  exact Option.or_none

/-- The aliases are in small letters and differ from each other. -/
structure Small (table : AliasTable) : Prop where
  lower : ∀ name ∈ table.names, Text.lower name = name
  nodup : table.names.Nodup

theorem Small.insert (htable : table.Small) (hlower : Text.lower spelling = spelling) (key : Text) :
    (table.insert spelling key).Small := by
  by_cases hmem : spelling ∈ table.names
  · have hnames : (table.insert spelling key).names = table.names := map_fst_put_of_mem hmem
    exact ⟨hnames ▸ htable.lower, hnames ▸ htable.nodup⟩
  · have hnames : (table.insert spelling key).names = table.names ++ [spelling] := by
      simp only [names, AliasTable.insert, put_of_not_mem hmem, List.map_append, List.map_cons,
        List.map_nil]
    refine ⟨fun name hname => ?_, ?_⟩
    · rw [hnames, List.mem_append, List.mem_singleton] at hname
      rcases hname with hname | rfl
      · exact htable.lower name hname
      · exact hlower
    · rw [hnames, List.nodup_append]
      refine ⟨htable.nodup, List.nodup_singleton _, fun name hname other hother heq => ?_⟩
      rw [List.mem_singleton] at hother
      exact hmem (hother ▸ heq ▸ hname)

theorem Small.insertAll (htable : table.Small)
    (hpairs : ∀ pair ∈ pairs, Text.lower pair.1 = pair.1) : (table.insertAll pairs).Small := by
  induction pairs generalizing table with
  | nil => exact htable
  | cons pair pairs ih =>
    exact ih (htable.insert (hpairs pair List.mem_cons_self) pair.2)
      fun other hother => hpairs other (List.mem_cons_of_mem _ hother)

theorem small_empty : empty.Small :=
  ⟨fun _ hmem => absurd hmem List.not_mem_nil, List.nodup_nil⟩

theorem small_lowered (table : AliasTable) : table.lowered.Small := by
  refine small_empty.insertAll fun pair hpair => ?_
  obtain ⟨entry, -, rfl⟩ := List.mem_map.mp hpair
  exact Text.lower_lower _

theorem small_standard : standard.Small :=
  ⟨by decide, by decide⟩

theorem find?_eq_none_iff : table.find? name = none ↔ name ∉ table.names := by
  rw [find?, List.lookup_eq_none_iff, names, List.mem_map]
  constructor
  · rintro hne ⟨entry, hentry, rfl⟩
    exact absurd (hne entry hentry) (by simp)
  · intro hmem entry hentry
    rw [bne_iff_ne]
    exact fun heq => hmem ⟨entry, hentry, heq.symm⟩

theorem Small.find?_of_mem (htable : table.Small) {entry : Text × Text}
    (hentry : entry ∈ table.entries) : table.find? entry.1 = some entry.2 := by
  obtain ⟨front, back, hsplit⟩ := List.append_of_mem hentry
  have hnodup := htable.nodup
  rw [names, hsplit, List.map_append, List.nodup_append] at hnodup
  rw [find?, hsplit]
  refine List.lookup_eq_some_iff.mpr ⟨front, back, rfl, fun other hother => ?_⟩
  rw [bne_iff_ne]
  exact Ne.symm (hnodup.2.2 _ (List.mem_map_of_mem hother) _ List.mem_cons_self)

/-- In a table of small aliases the last pair for a name is the only one. -/
theorem Small.map_lastFor?_entries (htable : table.Small) (hname : Text.lower name = name) :
    (lastFor? name table.entries).map Prod.snd = table.find? name := by
  cases hlast : lastFor? name table.entries with
  | none =>
    refine (find?_eq_none_iff.mpr fun hmem => ?_).symm
    obtain ⟨entry, hentry, rfl⟩ := List.mem_map.mp hmem
    have hnone := List.find?_eq_none.mp hlast entry (List.mem_reverse.mpr hentry)
    exact hnone (decide_eq_true hname)
  | some entry =>
    obtain ⟨hlower, first, second, hentries, -⟩ := lastFor?_eq_some_iff.mp hlast
    have hentry : entry ∈ table.entries :=
      hentries ▸ List.mem_append_right _ List.mem_cons_self
    rw [htable.lower _ (List.mem_map_of_mem hentry)] at hlower
    rw [Option.map_some, ← hlower, htable.find?_of_mem hentry]

/-- The last pair for a name that spells it otherwise than in small letters. -/
def otherwise? (name : Text) (pairs : List (Text × Text)) : Option (Text × Text) :=
  lastFor? name (pairs.filter (·.1 ≠ name))

private theorem lastFor?_filter_names (htable : table.Small) (name : Text) :
    lastFor? name (pairs.filter (·.1 ∉ table.names)) =
      if name ∈ table.names then otherwise? name pairs else lastFor? name pairs := by
  have hsame : ∀ pair : Text × Text, Text.lower pair.1 = name →
      (pair.1 ∈ table.names ↔ pair.1 = name ∧ name ∈ table.names) := by
    intro pair hpair
    refine ⟨fun hmem => ?_, fun ⟨heq, hmem⟩ => heq ▸ hmem⟩
    have heq : pair.1 = name := (htable.lower _ hmem).symm.trans hpair
    exact ⟨heq, heq ▸ hmem⟩
  simp only [otherwise?, lastFor?, ← List.filter_reverse, List.find?_filter]
  split_ifs with hmem
  · refine List.find?_congr fun pair _ => ?_
    rw [decide_eq_decide, decide_eq_true_eq, decide_eq_true_eq, decide_eq_true_eq]
    exact and_congr_left fun hpair => not_congr ((hsame pair hpair).trans (and_iff_left hmem))
  · refine List.find?_congr fun pair _ => ?_
    rw [decide_eq_decide, decide_eq_true_eq, decide_eq_true_eq]
    exact and_iff_right_of_imp fun hpair hin => hmem ((hsame pair hpair).mp hin).2

/-- What a table gives after a call: of an alias that it has, another spelling counts first. -/
theorem find?_extend (htable : table.Small) (hpairs : (pairs.map Prod.fst).Nodup)
    (hname : Text.lower name = name) :
    (table.extend pairs false).find? name =
      if name ∈ table.names then
        ((otherwise? name pairs).map Prod.snd).or
          (((pairs.reverse.find? (·.1 = name)).map Prod.snd).or (table.find? name))
      else (lastFor? name pairs).map Prod.snd := by
  obtain ⟨front, hentries, hfront⟩ := table.exists_entries_insertAll hpairs
  have hnames : (⟨front⟩ : AliasTable).names = table.names := hfront
  have hsmall : (⟨front⟩ : AliasTable).Small := ⟨hnames ▸ htable.lower, hnames ▸ htable.nodup⟩
  have hfind : (⟨front⟩ : AliasTable).find? name = if name ∈ table.names then
      ((pairs.reverse.find? (·.1 = name)).map Prod.snd).or (table.find? name) else none := by
    split_ifs with hmem
    · rw [← find?_insertAll, find?, find?, hentries, List.lookup_append, Option.or_eq_left_of_none]
      refine List.lookup_eq_none_iff.mpr fun pair hpair => ?_
      rw [List.mem_filter, decide_eq_true_eq] at hpair
      exact bne_iff_ne.mpr fun heq => hpair.2 (heq ▸ hmem)
    · exact find?_eq_none_iff.mpr (hnames ▸ hmem)
  rw [extend, if_neg Bool.false_ne_true, find?_lowered, hentries, lastFor?_append, Option.map_or,
    hsmall.map_lastFor?_entries hname, hfind, lastFor?_filter_names htable name]
  split_ifs
  · rfl
  · exact Option.or_none

/-- The last pair for a name spells it in small letters, but behind the pair of another spelling, with
    its key. -/
def Overtaken (pairs : List (Text × Text)) (name key : Text) : Prop :=
  ∃ first spelling second small third,
    pairs = first ++ (spelling, key) :: (second ++ (name, small) :: third) ∧
      Text.lower spelling = name ∧ ∀ pair ∈ second ++ third, Text.lower pair.1 ≠ name

theorem Overtaken.lastFor?_ne_none (hover : Overtaken pairs name key)
    (hname : Text.lower name = name) : lastFor? name pairs ≠ none := by
  obtain ⟨first, spelling, second, small, third, rfl, -, -⟩ := hover
  intro hnone
  refine lastFor?_eq_none_iff.mp hnone (name, small) ?_ hname
  exact List.mem_append_right _ (List.mem_cons_of_mem _
    (List.mem_append_right _ List.mem_cons_self))

/-- The last pair for a name is also the last of other spellings, if it is one. -/
theorem otherwise?_eq_some_of_ne {pair : Text × Text} (hlast : lastFor? name pairs = some pair)
    (hne : pair.1 ≠ name) : otherwise? name pairs = some pair := by
  obtain ⟨hlower, first, second, rfl, hsilent⟩ := lastFor?_eq_some_iff.mp hlast
  refine lastFor?_eq_some_iff.mpr ⟨hlower, first.filter (·.1 ≠ name), second.filter (·.1 ≠ name),
    ?_, fun other hother => hsilent other (List.mem_of_mem_filter hother)⟩
  rw [List.filter_append, List.filter_cons, if_pos (decide_eq_true hne)]

theorem exists_of_otherwise?_eq_some {pair : Text × Text}
    (hother : otherwise? name pairs = some pair) :
    pair ∈ pairs ∧ pair.1 ≠ name ∧ Text.lower pair.1 = name := by
  obtain ⟨hlower, first, second, hsplit, -⟩ := lastFor?_eq_some_iff.mp hother
  have hmem : pair ∈ pairs.filter (·.1 ≠ name) :=
    hsplit ▸ List.mem_append_right _ List.mem_cons_self
  rw [List.mem_filter, decide_eq_true_eq] at hmem
  exact ⟨hmem.1, hmem.2, hlower⟩

/-- If no pair spells a name otherwise, its pairs are those that spell it in small letters. -/
theorem find?_eq_lastFor? (hname : Text.lower name = name) (hnone : otherwise? name pairs = none) :
    pairs.reverse.find? (·.1 = name) = lastFor? name pairs := by
  refine List.find?_congr fun pair hpair => ?_
  rw [decide_eq_decide]
  refine ⟨fun heq => heq ▸ hname, fun hlower => ?_⟩
  by_contra hne
  refine lastFor?_eq_none_iff.mp hnone pair ?_ hlower
  exact List.mem_filter.mpr ⟨List.mem_reverse.mp hpair, decide_eq_true hne⟩

private theorem ne_of_nodup {first second third : List (Text × Text)} {spelling small : Text}
    (hpairs : ((first ++ (spelling, key) :: (second ++ (name, small) :: third)).map
      Prod.fst).Nodup) : spelling ≠ name := by
  rw [List.map_append, List.nodup_append, List.map_cons, List.nodup_cons] at hpairs
  rintro rfl
  refine hpairs.2.1.1 (List.mem_map.mpr ⟨(spelling, small), ?_, rfl⟩)
  exact List.mem_append_right _ List.mem_cons_self

/-- A last pair that is overtaken has a key that comes second to that of another spelling. -/
theorem Overtaken.otherwise?_eq_some (hpairs : (pairs.map Prod.fst).Nodup)
    (hover : Overtaken pairs name key) : (otherwise? name pairs).map Prod.snd = some key := by
  obtain ⟨first, spelling, second, small, third, rfl, hspelling, hsilent⟩ := hover
  have hne := ne_of_nodup hpairs
  have hother : otherwise? name (first ++ (spelling, key) :: (second ++ (name, small) :: third)) =
      some (spelling, key) := by
    refine lastFor?_eq_some_iff.mpr ⟨hspelling, first.filter (·.1 ≠ name),
      (second ++ (name, small) :: third).filter (·.1 ≠ name), ?_, fun pair hpair => ?_⟩
    · rw [List.filter_append, List.filter_cons, if_pos (decide_eq_true hne)]
    · obtain ⟨hmem, hother⟩ := List.mem_filter.mp hpair
      rw [List.mem_append, List.mem_cons] at hmem
      rcases hmem with hmem | rfl | hmem
      · exact hsilent pair (List.mem_append_left _ hmem)
      · exact absurd rfl (of_decide_eq_true hother)
      · exact hsilent pair (List.mem_append_right _ hmem)
  rw [hother, Option.map_some]

/-- Unless it is overtaken, the last pair for a name is also the last one in the table. -/
theorem otherwise?_or_find?_eq_lastFor? (hname : Text.lower name = name)
    (hnot : ∀ key, ¬ Overtaken pairs name key) :
    (otherwise? name pairs).or (pairs.reverse.find? (·.1 = name)) = lastFor? name pairs := by
  cases hother : otherwise? name pairs with
  | none => rw [Option.none_or, find?_eq_lastFor? hname hother]
  | some other =>
    obtain ⟨hmem, hne, hlower⟩ := exists_of_otherwise?_eq_some hother
    obtain ⟨⟨spelling, small⟩, hlast⟩ := Option.ne_none_iff_exists'.mp
      fun hnone => lastFor?_eq_none_iff.mp hnone other hmem hlower
    suffices hspelling : spelling ≠ name by
      rw [Option.some_or, hlast, ← otherwise?_eq_some_of_ne hlast hspelling, hother]
    rintro rfl
    -- Otherwise the other spelling is one of the pairs before the last one, which it overtakes.
    obtain ⟨-, first, third, rfl, hthird⟩ := lastFor?_eq_some_iff.mp hlast
    have hfirst : other ∈ first := by
      rw [List.mem_append, List.mem_cons] at hmem
      rcases hmem with hmem | rfl | hmem
      · exact hmem
      · exact absurd rfl hne
      · exact absurd hlower (hthird other hmem)
    obtain ⟨⟨rival, key⟩, hrival⟩ := Option.ne_none_iff_exists'.mp
      fun hnone => lastFor?_eq_none_iff.mp hnone other hfirst hlower
    obtain ⟨hrivalLower, before, second, rfl, hsecond⟩ := lastFor?_eq_some_iff.mp hrival
    refine hnot key ⟨before, rival, second, small, third, by simp, hrivalLower,
      fun pair hpair => ?_⟩
    rcases List.mem_append.mp hpair with hpair | hpair
    · exact hsecond pair hpair
    · exact hthird pair hpair

/-- A call that extends a table: pairs with different aliases, and whether they replace the others. -/
structure Extension where
  pairs : List (Text × Text)
  replaces : Bool
  nodup : (pairs.map Prod.fst).Nodup

namespace Extension

variable {call : Extension}

/-- The pair of another spelling counts, if it overtakes the last pair for a name that is there. -/
theorem find?_extend_of_overtaken (htable : table.Small) (hname : Text.lower name = name)
    (hkeeps : call.replaces = false) (hthere : table.find? name ≠ none)
    (hover : Overtaken call.pairs name key) :
    (table.extend call.pairs call.replaces).find? name = some key := by
  have hmem : name ∈ table.names := by
    by_contra hnot
    exact hthere (find?_eq_none_iff.mpr hnot)
  rw [hkeeps, find?_extend htable call.nodup hname, if_pos hmem,
    hover.otherwise?_eq_some call.nodup, Option.some_or]

/-- Unless it is overtaken, the last pair for a name counts, and what was there if there is none. -/
theorem find?_extend_of_not_overtaken (htable : table.Small) (hname : Text.lower name = name)
    (hnot : call.replaces = false → table.find? name ≠ none →
      ∀ key, ¬ Overtaken call.pairs name key) :
    (table.extend call.pairs call.replaces).find? name =
      ((lastFor? name call.pairs).map Prod.snd).or
        (if call.replaces then none else table.find? name) := by
  cases hreplaces : call.replaces with
  | true =>
    have hextend : table.extend call.pairs true = empty.extend call.pairs false := rfl
    have hempty : name ∉ empty.names := List.not_mem_nil
    rw [hextend, find?_extend small_empty call.nodup hname, if_neg hempty,
      if_pos rfl, Option.or_none]
  | false =>
    rw [find?_extend htable call.nodup hname, if_neg Bool.false_ne_true]
    split_ifs with hmem
    · have hthere : table.find? name ≠ none := fun hnone => find?_eq_none_iff.mp hnone hmem
      rw [← Option.or_assoc, ← Option.map_or,
        otherwise?_or_find?_eq_lastFor? hname (hnot hreplaces hthere)]
    · rw [find?_eq_none_iff.mpr hmem, Option.or_none]

end Extension

/-- The standard table after some calls. -/
def after (calls : List Extension) : AliasTable :=
  calls.foldl (fun table call => table.extend call.pairs call.replaces) standard

/-- The calls from the last one on that replaces the table. -/
def counting : List Extension → List Extension
  | [] => []
  | call :: calls => if calls.any (·.replaces) then counting calls else call :: calls

/-- The key of a name by the rule that the last pair counts, from the last replacement on. -/
def intended? (calls : List Extension) (name : Text) : Option Text :=
  ((lastFor? name ((counting calls).flatMap (·.pairs))).map Prod.snd).or
    (if calls.any (·.replaces) then none else standard.find? name)

/-- The call leaves the name as it is. -/
def Extension.Spares (call : Extension) (name : Text) : Prop :=
  call.replaces = false ∧ ∀ pair ∈ call.pairs, Text.lower pair.1 ≠ name

/-- The last call that does not leave the name as it is has a pair for it that is overtaken, and the
    table had the name before. -/
def Overtakes (calls : List Extension) (name key : Text) : Prop :=
  ∃ before call later, calls = before ++ call :: later ∧ call.replaces = false ∧
    intended? before name ≠ none ∧ Overtaken call.pairs name key ∧
    ∀ other ∈ later, other.Spares name

variable {calls : List Extension} {call : Extension}

theorem Extension.Spares.find?_extend (hspares : call.Spares name) (htable : table.Small)
    (hname : Text.lower name = name) :
    (table.extend call.pairs call.replaces).find? name = table.find? name := by
  obtain ⟨hkeeps, hpairs⟩ := hspares
  have hlast := lastFor?_eq_none_iff.mpr hpairs
  rw [find?_extend_of_not_overtaken htable hname fun _ _ key hover =>
    hover.lastFor?_ne_none hname hlast, hlast, hkeeps]
  rfl

theorem after_append_singleton :
    after (calls ++ [call]) = (after calls).extend call.pairs call.replaces :=
  List.foldl_concat ..

theorem small_after (calls : List Extension) : (after calls).Small := by
  induction calls using List.reverseRecOn with
  | nil => exact small_standard
  | append_singleton calls call _ => exact after_append_singleton ▸ small_lowered _

private theorem any_append_singleton :
    (calls ++ [call]).any (·.replaces) = (calls.any (·.replaces) || call.replaces) := by
  simp

theorem counting_append_singleton :
    counting (calls ++ [call]) = if call.replaces then [call] else counting calls ++ [call] := by
  induction calls with
  | nil => simp [counting]
  | cons first calls ih =>
    rw [List.cons_append, counting, counting, any_append_singleton, ih]
    cases call.replaces with
    | true => simp
    | false => cases calls.any (·.replaces) <;> simp

theorem intended?_append_singleton :
    intended? (calls ++ [call]) name = ((lastFor? name call.pairs).map Prod.snd).or
      (if call.replaces then none else intended? calls name) := by
  rw [intended?, counting_append_singleton, any_append_singleton]
  cases call.replaces with
  | true => simp
  | false =>
    simp only [Bool.false_eq_true, if_false, List.flatMap_append, List.flatMap_singleton,
      lastFor?_append, Option.map_or, Bool.or_false, intended?, Option.or_assoc]

theorem overtakes_append_singleton_iff :
    Overtakes (calls ++ [call]) name key ↔
      (call.replaces = false ∧ intended? calls name ≠ none ∧ Overtaken call.pairs name key) ∨
        (call.Spares name ∧ Overtakes calls name key) := by
  constructor
  · rintro ⟨before, decisive, later, hcalls, hkeeps, hthere, hover, hlater⟩
    rcases List.eq_nil_or_concat later with rfl | ⟨later, last, rfl⟩
    · obtain ⟨rfl, hcall⟩ := List.append_inj' hcalls rfl
      obtain rfl := List.singleton_inj.mp hcall
      exact .inl ⟨hkeeps, hthere, hover⟩
    · rw [List.concat_eq_append, ← List.cons_append, ← List.append_assoc] at hcalls
      obtain ⟨rfl, hcall⟩ := List.append_inj' hcalls rfl
      obtain rfl := List.singleton_inj.mp hcall
      rw [List.concat_eq_append] at hlater
      exact .inr ⟨hlater _ (List.mem_append_right _ List.mem_cons_self),
        before, decisive, later, rfl, hkeeps, hthere, hover,
        fun other hother => hlater other (List.mem_append_left _ hother)⟩
  · rintro (⟨hkeeps, hthere, hover⟩ | ⟨hspares, before, decisive, later, rfl, hkeeps, hthere, hover,
      hlater⟩)
    · exact ⟨calls, call, [], rfl, hkeeps, hthere, hover,
        fun _ hmem => absurd hmem List.not_mem_nil⟩
    · refine ⟨before, decisive, later ++ [call], by simp, hkeeps, hthere, hover,
        fun other hother => ?_⟩
      rcases List.mem_append.mp hother with hother | hother
      · exact hlater other hother
      · exact List.mem_singleton.mp hother ▸ hspares

/-- What the table has after some calls: the intended key, unless that is overtaken. -/
theorem find?_after (hname : Text.lower name = name) (calls : List Extension) :
    (∀ key, Overtakes calls name key → (after calls).find? name = some key ∧
        intended? calls name ≠ none) ∧
      ((∀ key, ¬ Overtakes calls name key) → (after calls).find? name = intended? calls name) := by
  induction calls using List.reverseRecOn with
  | nil =>
    constructor
    · rintro key ⟨before, call, later, hcalls, -⟩
      exact absurd hcalls (by simp)
    · exact fun _ => Option.none_or.symm
  | append_singleton calls call ih =>
    have hthere : (after calls).find? name ≠ none ↔ intended? calls name ≠ none := by
      by_cases hover : ∃ key, Overtakes calls name key
      · obtain ⟨key, hkey⟩ := hover
        obtain ⟨hfind, hintended⟩ := ih.1 key hkey
        rw [hfind]
        exact iff_of_true (Option.some_ne_none key) hintended
      · rw [ih.2 (not_exists.mp hover)]
    have hsmall := small_after calls
    simp only [overtakes_append_singleton_iff, after_append_singleton, intended?_append_singleton]
    constructor
    · rintro key (⟨hkeeps, hintended, hover⟩ | ⟨hspares, hover⟩)
      · refine ⟨call.find?_extend_of_overtaken hsmall hname hkeeps (hthere.mpr hintended) hover, ?_⟩
        rw [Ne, Option.or_eq_none_iff, Option.map_eq_none_iff, not_and_or]
        exact .inl (hover.lastFor?_ne_none hname)
      · obtain ⟨hfind, hintended⟩ := ih.1 key hover
        rw [hspares.find?_extend hsmall hname, lastFor?_eq_none_iff.mpr hspares.2, hspares.1]
        exact ⟨hfind, hintended⟩
    · intro hnot
      rw [call.find?_extend_of_not_overtaken hsmall hname fun hkeeps hin key hover =>
        hnot key (.inl ⟨hkeeps, hthere.mp hin, hover⟩)]
      cases hreplaces : call.replaces with
      | true => rfl
      | false =>
        cases hlast : lastFor? name call.pairs with
        | some pair => rfl
        | none =>
          have hspares : call.Spares name := ⟨hreplaces, lastFor?_eq_none_iff.mp hlast⟩
          rw [ih.2 fun key hover => hnot key (.inr ⟨hspares, hover⟩)]

/-- The key of a field after any calls: that of the last pair for it from the last replacement on, and
    else the standard one; but the pair of another spelling counts where it overtakes that pair. -/
theorem canonical_after (calls : List Extension) (field : Text) :
    (∀ key, Overtakes calls (Text.lower field) key → (after calls).canonical field = key) ∧
      ((∀ key, ¬ Overtakes calls (Text.lower field) key) → (after calls).canonical field =
        (intended? calls (Text.lower field)).getD (capitalized (Text.lower field))) := by
  obtain ⟨hover, hnot⟩ := find?_after (Text.lower_lower field) calls
  constructor
  · intro key hkey
    rw [canonical, (hover key hkey).1, Option.getD_some]
  · intro hnone
    rw [canonical, hnot hnone]

/-- Of two spellings in one call the first counts if the second is the one in the table, but the
    second counts if the call replaces the table. -/
theorem canonical_after_two_spellings :
    let pairs := [("State".toList, "X".toList), ("state".toList, "Y".toList)]
    let merged : Extension := ⟨pairs, false, by decide⟩
    let replacing : Extension := ⟨pairs, true, by decide⟩
    (after [merged]).canonical "state".toList = "X".toList ∧
      intended? [merged] "state".toList = some "Y".toList ∧
      (after [merged, replacing]).canonical "STATE".toList = "Y".toList := by
  intro pairs merged replacing
  have hover : Overtakes [merged] (Text.lower "state".toList) "X".toList := by
    refine ⟨[], merged, [], rfl, rfl, by decide, ?_, fun _ hmem => absurd hmem List.not_mem_nil⟩
    exact ⟨[], "State".toList, [], "Y".toList, [], rfl, by decide, by decide⟩
  have hnot : ∀ key, ¬ Overtakes ([merged] ++ [replacing]) (Text.lower "STATE".toList) key := by
    intro key
    rw [overtakes_append_singleton_iff]
    rintro (⟨hkeeps, -⟩ | ⟨⟨hkeeps, -⟩, -⟩) <;> exact absurd hkeeps (by decide)
  refine ⟨(canonical_after [merged] "state".toList).1 _ hover, by decide, ?_⟩
  refine ((canonical_after ([merged] ++ [replacing]) "STATE".toList).2 hnot).trans ?_
  decide

end RecordFilter.AliasTable
