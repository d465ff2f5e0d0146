import QueryWarden.Proofs.Generation.Reports
import QueryWarden.Proofs.History.Sequence
import QueryWarden.Proofs.Outcome
import QueryWarden.Proofs.Time.Chronology

/-!
# Listings of the log

What the log answers over a run of appending and clearing. The records that it hands out have larger
and larger ids, clearing counts those that are there, and a listing has the stored records by their
times and ids: the texts that rows are sorted by have the order of the times. So while the clock
does not go back a listing has the records in the reverse order of appending.
-/

namespace QueryWarden.History

open QueryWarden.Database QueryWarden.Generation QueryWarden.Text

/-- What is asked of the log. Time is what a clock reads in a year of four digits. -/
inductive LogCommand where
  | append (now : Time.Timestamp) (isStorable : now.IsStorable) (attempt : Attempt)
  | clear

/-- What the log answers. -/
inductive LogReply where
  | kept (outcome : Except Failure Record)
  | removed (count : Nat)

/-- One command. -/
def Store.perform (store : Store) : LogCommand → LogReply × Store
  | .append now _ attempt =>
      let (outcome, changed) := store.append now attempt
      (.kept outcome, changed)
  | .clear =>
      let (count, changed) := store.clear
      (.removed count, changed)

/-- Commands one after the other, with their replies. -/
def Store.run (store : Store) : List LogCommand → List LogReply × Store
  | [] => ([], store)
  | command :: commands =>
      let (reply, changed) := store.perform command
      let (replies, last) := changed.run commands
      (reply :: replies, last)

/-- The record that a reply hands out. -/
def LogReply.record? : LogReply → Option Record
  | .kept (.ok record) => some record
  | .kept (.error _) => none
  | .removed _ => none

/-- All records that were handed out. -/
def handedOut (replies : List LogReply) : List Record :=
  replies.filterMap LogReply.record?

/-- The records that were handed out since the log was last cleared. -/
def present (replies : List LogReply) : List Record :=
  replies.foldl (fun records reply =>
    match reply with
    | .removed _ => []
    | .kept _ => records ++ reply.record?.toList) []

/-! ## The order of a listing -/

/-- The record with its time cut to whole microseconds. -/
def Record.toMicros (record : Record) : Record :=
  { record with executedAt := record.executedAt.toMicros }

/-- The record has the later time, or the larger id at the same time. -/
def Record.ListedBefore (record other : Record) : Prop :=
  other.executedAt.nanos < record.executedAt.nanos ∨
    record.executedAt.nanos = other.executedAt.nanos ∧ other.id < record.id

theorem Record.ListedBefore.asymm {record other : Record} (hbefore : record.ListedBefore other) :
    ¬ other.ListedBefore record := by
  rw [ListedBefore] at hbefore ⊢
  omega

namespace StoredRecord

theorem listedBefore_iff {row other : StoredRecord} :
    row.listedBefore other = true ↔
      textLess other.executedAt.toList row.executedAt.toList = true ∨
        row.executedAt = other.executedAt ∧ other.id ≤ row.id := by
  rw [listedBefore]
  split
  next htime => simp [htime, textLess_irrefl]
  next htime => simp [htime]

theorem listedBefore_trans (first second third : StoredRecord)
    (hfirst : first.listedBefore second = true) (hsecond : second.listedBefore third = true) :
    first.listedBefore third = true := by
  rw [listedBefore_iff] at hfirst hsecond ⊢
  rcases hfirst with hless | ⟨htime, hid⟩
  · rcases hsecond with hless' | ⟨htime', -⟩
    · exact .inl (textLess_trans hless' hless)
    · exact .inl (htime' ▸ hless)
  · rcases hsecond with hless' | ⟨htime', hid'⟩
    · exact .inl (htime ▸ hless')
    · exact .inr ⟨htime.trans htime', Int.le_trans hid' hid⟩

theorem listedBefore_total (row other : StoredRecord) :
    (row.listedBefore other || other.listedBefore row) = true := by
  rw [Bool.or_eq_true, listedBefore_iff, listedBefore_iff]
  rcases textLess_trichotomy row.executedAt.toList other.executedAt.toList with
    hless | htime | hless
  · exact .inr (.inl hless)
  · have htime := String.toList_inj.mp htime
    rcases Int.le_total other.id row.id with hid | hid
    · exact .inl (.inr ⟨htime, hid⟩)
    · exact .inr (.inr ⟨htime.symm, hid⟩)
  · exact .inl (.inl hless)

/-- Rows of different ids are sorted as the records they are read as. -/
theorem listedBefore_ofRecord_iff {record other : Record} (hrecord : record.executedAt.IsStorable)
    (hother : other.executedAt.IsStorable) (hid : record.id ≠ other.id) :
    (ofRecord record).listedBefore (ofRecord other) = true ↔
      record.toMicros.ListedBefore other.toMicros := by
  rw [listedBefore_iff, Record.ListedBefore]
  simp only [ofRecord, Record.toMicros]
  rw [Time.Timestamp.textLess_storedText hother hrecord,
    Time.Timestamp.storedText_eq_iff hrecord hother]
  omega

/-- A row is read as its record, with the time cut to microseconds. -/
theorem decode_ofRecord {record : Record} (hrecord : record.executedAt.IsStorable) :
    (ofRecord record).decode = .ok record.toMicros := by
  simp only [decode, ofRecord, Time.Timestamp.ofText?_storedText hrecord, Chart.ofName_name]
  rfl

end StoredRecord

/-! ## Listings -/

/-- The records in the order of their rows. -/
def inRowOrder (records : List Record) : List Record :=
  records.mergeSort fun record other =>
    (StoredRecord.ofRecord record).listedBefore (.ofRecord other)

/-- The records as a listing without a limit has them. -/
def latestFirst (records : List Record) : List Record :=
  (inRowOrder records).map Record.toMicros

section Listings

variable {records : List Record} {store : Store}

theorem inRowOrder_perm (records : List Record) : (inRowOrder records).Perm records :=
  List.mergeSort_perm _ _

theorem latestFirst_perm (records : List Record) :
    (latestFirst records).Perm (records.map Record.toMicros) :=
  (inRowOrder_perm records).map _

theorem length_latestFirst (records : List Record) :
    (latestFirst records).length = records.length := by
  rw [(latestFirst_perm records).length_eq, List.length_map]

/-- A listing has its records by time and id. -/
theorem pairwise_latestFirst
    (hstorable : ∀ record ∈ records, record.executedAt.IsStorable)
    (hids : records.Pairwise fun record later => record.id < later.id) :
    (latestFirst records).Pairwise Record.ListedBefore := by
  have hrows : (inRowOrder records).Pairwise fun record other =>
      (StoredRecord.ofRecord record).listedBefore (.ofRecord other) = true := by
    apply List.pairwise_mergeSort
    · intro first second third
      exact StoredRecord.listedBefore_trans _ _ _
    · intro record other
      exact StoredRecord.listedBefore_total _ _
  have hdistinct : (inRowOrder records).Pairwise fun record other => record.id ≠ other.id := by
    rw [(inRowOrder_perm records).pairwise_iff Ne.symm]
    exact hids.imp Int.ne_of_lt
  rw [latestFirst, List.pairwise_map]
  refine (hrows.and hdistinct).imp_of_mem ?_
  rintro record other hrecord hother ⟨hbefore, hid⟩
  rw [(inRowOrder_perm records).mem_iff] at hrecord hother
  exact (StoredRecord.listedBefore_ofRecord_iff (hstorable record hrecord)
    (hstorable other hother) hid).mp hbefore

/-- While the clock does not go back the last record comes first. -/
theorem latestFirst_eq_reverse
    (hstorable : ∀ record ∈ records, record.executedAt.IsStorable)
    (hids : records.Pairwise fun record later => record.id < later.id)
    (htimes : records.Pairwise fun record later =>
      record.executedAt.nanos ≤ later.executedAt.nanos) :
    latestFirst records = (records.map Record.toMicros).reverse := by
  have hreversed : (records.map Record.toMicros).reverse.Pairwise Record.ListedBefore := by
    rw [List.pairwise_reverse, List.pairwise_map]
    refine (hids.and htimes).imp ?_
    rintro record later ⟨hid, htime⟩
    simp only [Record.ListedBefore, Record.toMicros, Time.Timestamp.nanos_toMicros]
    omega
  apply List.Perm.eq_of_pairwise _ (pairwise_latestFirst hstorable hids) hreversed
  · exact (latestFirst_perm records).trans (List.reverse_perm _).symm
  · intro record other _ _ hbefore hafter
    exact absurd hafter hbefore.asymm

theorem Store.listing_eq (hrows : store.rows = records.map StoredRecord.ofRecord) :
    store.listing = (inRowOrder records).map StoredRecord.ofRecord := by
  rw [listing, hrows, inRowOrder, List.map_mergeSort]
  intro record _ other _
  rfl

theorem Store.decode_listing (hrows : store.rows = records.map StoredRecord.ofRecord)
    (hstorable : ∀ record ∈ records, record.executedAt.IsStorable) (limit : Nat) :
    (store.listing.take limit).mapM StoredRecord.decode =
      .ok ((latestFirst records).take limit) := by
  rw [listing_eq hrows, latestFirst, ← List.map_take, ← List.map_take]
  apply mapM_map_ok
  intro record hrecord
  apply StoredRecord.decode_ofRecord
  exact hstorable record ((inRowOrder_perm records).mem_iff.mp (List.mem_of_mem_take hrecord))

/-- The word of a limit with a sign: from the highest bit on it is negative. -/
theorem toInt_limit (limit : UInt64) :
    limit.toInt64.toInt =
      if limit.toNat < 2 ^ 63 then (limit.toNat : Int) else (limit.toNat : Int) - 2 ^ 64 := by
  have hsigned := BitVec.toInt_eq_toNat_cond limit.toBitVec
  have hhalf : 2 * limit.toNat < 2 ^ 64 ↔ limit.toNat < 2 ^ 63 := by omega
  rw [UInt64.toNat_toBitVec, if_congr hhalf rfl rfl] at hsigned
  exact hsigned

/-- What the engine says to a limit: nothing up to its largest, then that it is too large, and that
it is negative once the highest bit is set. -/
theorem limitRefusal?_eq (limit : UInt64) :
    limitRefusal? limit.toInt64.toInt =
      if limit.toNat ≤ largestLimit then none
      else if limit.toNat < 2 ^ 63 then some (.engine "the limit is too large")
      else some (.engine "the limit is negative") := by
  have hword := limit.toNat_lt
  have hlargest : largestLimit = 2 ^ 62 := rfl
  rw [limitRefusal?, toInt_limit]
  split
  next hpositive =>
    rw [if_neg (Int.not_lt.mpr (Int.natCast_nonneg _)), hlargest]
    by_cases hwithin : limit.toNat ≤ 2 ^ 62
    · rw [if_pos hwithin, if_neg (by omega)]
    · rw [if_neg hwithin, if_pos (by omega)]
  next hnegative =>
    rw [if_pos (by omega), if_neg (by omega)]

/-- What the log lists. -/
theorem Store.list_eq (hrows : store.rows = records.map StoredRecord.ofRecord)
    (hstorable : ∀ record ∈ records, record.executedAt.IsStorable) (limit : UInt64) :
    store.list limit =
      if records = [] ∨ limit.toNat ≤ largestLimit then .ok ((latestFirst records).take limit.toNat)
      else if limit.toNat < 2 ^ 63 then .error (.engine "the limit is too large")
      else .error (.engine "the limit is negative") := by
  simp only [list, limitRefusal?_eq, hrows, List.isEmpty_map]
  cases records with
  | nil => simp [latestFirst, inRowOrder]
  | cons record records =>
      by_cases hwithin : limit.toNat ≤ largestLimit
      · have hlargest : largestLimit < 2 ^ 63 := by decide
        have hasked : limit.toInt64.toInt.toNat = limit.toNat := by
          rw [toInt_limit, if_pos (by omega), Int.toNat_natCast]
        simp [hwithin, hasked, decode_listing hrows hstorable]
      · simp only [if_neg hwithin, List.isEmpty_cons, Bool.false_eq_true, reduceIte,
          List.cons_ne_nil, false_or]
        by_cases hpositive : limit.toNat < 2 ^ 63
        · simp only [if_pos hpositive]
        · simp only [if_neg hpositive]

/-- What is listed is the front of one and the same order of the records. -/
theorem eq_take_of_list_eq_ok (hrows : store.rows = records.map StoredRecord.ofRecord)
    (hstorable : ∀ record ∈ records, record.executedAt.IsStorable) {limit : UInt64}
    {listed : List Record} (hlisted : store.list limit = .ok listed) :
    listed = (latestFirst records).take limit.toNat := by
  rw [Store.list_eq hrows hstorable] at hlisted
  split at hlisted
  · exact (Except.ok.inj hlisted).symm
  · split at hlisted <;> cases hlisted

end Listings

/-! ## Runs -/

/-- Appending is answered with the record of the attempt, clearing with a number. -/
inductive LogCommand.Answered : LogCommand → LogReply → Prop where
  | kept (now : Time.Timestamp) (isStorable : now.IsStorable) (attempt : Attempt) (id : Int) :
      Answered (.append now isStorable attempt) (.kept (.ok ⟨id, attempt, now⟩))
  | removed (count : Nat) : Answered .clear (.removed count)

/-- Wherever the log was cleared, the reply is the number of records that were there. -/
def CountsPresent (replies : List LogReply) : Prop :=
  ∀ earlier count, earlier ++ [LogReply.removed count] <+: replies →
    count = (present earlier).length

theorem countsPresent_concat {replies : List LogReply} (hcounts : CountsPresent replies)
    {reply : LogReply}
    (hreply : ∀ count, reply = LogReply.removed count → count = (present replies).length) :
    CountsPresent (replies ++ [reply]) := by
  intro earlier count hprefix
  rcases List.prefix_concat_iff.mp hprefix with heq | hprefix
  · obtain ⟨rfl, hlast⟩ := List.append_inj' heq rfl
    exact hreply count (List.singleton_inj.mp hlast).symm
  · exact hcounts earlier count hprefix

/-- The log and what it has answered so far. -/
structure Store.Holds (store : Store) (replies : List LogReply) : Prop where
  /-- It holds the records handed out since it was last cleared. -/
  rows : store.rows = (present replies).map StoredRecord.ofRecord
  sublist : (present replies).Sublist (handedOut replies)
  /-- Its sequence is ahead of all records handed out, those that are gone included. -/
  ahead : ∀ record ∈ handedOut replies, record.id < store.nextId
  increasing : (handedOut replies).Pairwise fun record later => record.id < later.id
  storable : ∀ record ∈ handedOut replies, record.executedAt.IsStorable
  counts : CountsPresent replies

theorem handedOut_concat (replies : List LogReply) (reply : LogReply) :
    handedOut (replies ++ [reply]) = handedOut replies ++ reply.record?.toList := by
  rw [handedOut, List.filterMap_append, handedOut]
  cases hrecord : reply.record? <;> simp [hrecord]

namespace Store.Holds

variable {store : Store} {replies : List LogReply}

theorem empty : Store.empty.Holds [] where
  rows := rfl
  sublist := List.Sublist.refl _
  ahead _ hrecord := absurd hrecord List.not_mem_nil
  increasing := .nil
  storable _ hrecord := absurd hrecord List.not_mem_nil
  counts _ _ hprefix := by simp at hprefix

theorem isAhead (hholds : store.Holds replies) : store.IsAhead := by
  intro row hrow
  rw [hholds.rows] at hrow
  obtain ⟨record, hrecord, rfl⟩ := List.mem_map.mp hrow
  exact hholds.ahead record (hholds.sublist.mem hrecord)

theorem append (hholds : store.Holds replies) {now : Time.Timestamp} (isStorable : now.IsStorable)
    (attempt : Attempt) :
    (store.appended now attempt).Holds
      (replies ++ [.kept (.ok ⟨store.nextId, attempt, now⟩)]) := by
  have hpresent : present (replies ++ [.kept (.ok ⟨store.nextId, attempt, now⟩)]) =
      present replies ++ [⟨store.nextId, attempt, now⟩] := List.foldl_append
  have hhanded := handedOut_concat replies (.kept (.ok ⟨store.nextId, attempt, now⟩))
  refine ⟨?_, ?_, ?_, ?_, ?_, countsPresent_concat hholds.counts nofun⟩
  · rw [hpresent, List.map_append, ← hholds.rows]
    rfl
  · rw [hpresent, hhanded]
    exact hholds.sublist.append_right _
  · intro record hrecord
    change record.id < store.nextId + 1
    rw [hhanded] at hrecord
    rcases List.mem_append.mp hrecord with hold | hnew
    · have hbelow := hholds.ahead record hold
      omega
    · obtain rfl := List.mem_singleton.mp hnew
      exact Int.lt_succ store.nextId
  · rw [hhanded, List.pairwise_append]
    refine ⟨hholds.increasing, List.pairwise_singleton _ _, ?_⟩
    intro record hrecord later hlater
    obtain rfl := List.mem_singleton.mp hlater
    exact hholds.ahead record hrecord
  · intro record hrecord
    rw [hhanded] at hrecord
    rcases List.mem_append.mp hrecord with hold | hnew
    · exact hholds.storable record hold
    · obtain rfl := List.mem_singleton.mp hnew
      exact isStorable

theorem clear (hholds : store.Holds replies) :
    store.clear.2.Holds (replies ++ [.removed store.rows.length]) := by
  have hpresent : present (replies ++ [.removed store.rows.length]) = [] := List.foldl_append
  have hhanded := handedOut_concat replies (.removed store.rows.length)
  rw [LogReply.record?, Option.toList_none, List.append_nil] at hhanded
  refine ⟨?_, ?_, ?_, ?_, ?_, ?_⟩
  · rw [hpresent]
    rfl
  · rw [hpresent]
    exact List.nil_sublist _
  · rw [hhanded]
    exact hholds.ahead
  · rw [hhanded]
    exact hholds.increasing
  · rw [hhanded]
    exact hholds.storable
  · apply countsPresent_concat hholds.counts
    rintro count ⟨⟩
    rw [hholds.rows, List.length_map]

/-- A command is answered, and what it leaves holds what was handed out. -/
theorem perform (hholds : store.Holds replies) (command : LogCommand) :
    command.Answered (store.perform command).1 ∧
      (store.perform command).2.Holds (replies ++ [(store.perform command).1]) := by
  cases command with
  | append now isStorable attempt =>
      rw [Store.perform, hholds.isAhead.append_eq]
      exact ⟨.kept .., hholds.append isStorable attempt⟩
  | clear => exact ⟨.removed _, hholds.clear⟩

/-- So it is for commands one after the other. -/
theorem run (hholds : store.Holds replies) (commands : List LogCommand) :
    List.Forall₂ LogCommand.Answered commands (store.run commands).1 ∧
      (store.run commands).2.Holds (replies ++ (store.run commands).1) := by
  induction commands generalizing store replies with
  | nil =>
      rw [Store.run, List.append_nil]
      exact ⟨.nil, hholds⟩
  | cons command commands ih =>
      obtain ⟨hanswered, hperformed⟩ := hholds.perform command
      obtain ⟨hrest, hlast⟩ := ih hperformed
      rw [List.append_assoc, List.singleton_append] at hlast
      exact ⟨.cons hanswered hrest, hlast⟩

end Store.Holds

/-- The listing is cut from all records, the latest first and at one time the one with the larger
id. -/
structure ListsLatest (records : List Record) (limit : Nat) (listed : List Record) : Prop where
  ordered : ∃ ordered : List Record, ordered.Perm (records.map Record.toMicros) ∧
    ordered.Pairwise Record.ListedBefore ∧ listed = ordered.take limit
  length_eq : listed.length = min limit records.length
  /-- While the clock did not go back the last one comes first. -/
  reversed : (records.Pairwise fun record later =>
      record.executedAt.nanos ≤ later.executedAt.nanos) →
    listed = (records.map Record.toMicros).reverse.take limit

/-- What the log answered over a run from an empty one, and what it answers then. -/
structure ListsAppended (commands : List LogCommand) (replies : List LogReply) (store : Store) :
    Prop where
  answered : List.Forall₂ LogCommand.Answered commands replies
  /-- No id is given out again. -/
  increasing : (handedOut replies).Pairwise fun record later => record.id < later.id
  /-- Clearing tells how many records were there. -/
  counts : CountsPresent replies
  /-- It leaves none. -/
  clears : ∀ limit, (store.perform .clear).2.list limit = .ok []
  lists : ∀ limit listed, store.list limit = .ok listed →
    ListsLatest (present replies) limit.toNat listed
  listable : ∀ limit, limit.toNat ≤ largestLimit → ∃ listed, store.list limit = .ok listed

/-- Whatever is appended and however often the log is cleared, its listings have what was appended
since, by time and id. -/
theorem run_listsAppended (commands : List LogCommand) :
    ListsAppended commands (Store.empty.run commands).1 (Store.empty.run commands).2 := by
  obtain ⟨hanswered, hholds⟩ := Store.Holds.empty.run commands
  rw [List.nil_append] at hholds
  have hstorable : ∀ record ∈ present (Store.empty.run commands).1,
      record.executedAt.IsStorable := by
    intro record hrecord
    exact hholds.storable record (hholds.sublist.mem hrecord)
  have hids := hholds.increasing.sublist hholds.sublist
  refine ⟨hanswered, hholds.increasing, hholds.counts, fun _ => rfl, ?_, ?_⟩
  · intro limit listed hlisted
    obtain rfl := eq_take_of_list_eq_ok hholds.rows hstorable hlisted
    refine ⟨⟨_, latestFirst_perm _, pairwise_latestFirst hstorable hids, rfl⟩, ?_, ?_⟩
    · rw [List.length_take, length_latestFirst]
    · intro htimes
      rw [latestFirst_eq_reverse hstorable hids htimes]
  · intro limit hlimit
    exact ⟨_, (Store.list_eq hholds.rows hstorable limit).trans (if_pos (.inr hlimit))⟩

end QueryWarden.History
