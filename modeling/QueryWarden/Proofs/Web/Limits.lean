import QueryWarden.Proofs.Bytes.Utf8
import QueryWarden.Proofs.History.Listing
import QueryWarden.Proofs.Outcome
import QueryWarden.Proofs.Text.Numerals
import QueryWarden.Proofs.Text.Splitting
import QueryWarden.Web.Router

/-!
# Limits of a listing

Which limits a request can ask for, and which of them the log answers. A limit in a query string is
any word of 64 bits without a sign; the log hands the same bits to its engine as a word with one. So
a log with records refuses the upper half of the limits, which come out negative, and of the lower
half those that are more than the engine can count.
-/

namespace QueryWarden.Net

open QueryWarden.Text

/-- A text without a percent sign stands for itself. -/
theorem percentDecode_of_notMem {text : List Char} (hpercent : '%' ∉ text) :
    percentDecode text = Bytes.encodeText text := by
  induction text with
  | nil => rfl
  | cons c text ih =>
      have hc : c ≠ '%' := fun heq => hpercent (heq ▸ List.mem_cons_self)
      rw [percentDecode, ih (List.not_mem_of_not_mem_cons hpercent), Bytes.encodeText_cons]
      intro a b rest heq
      exact absurd heq hc

end QueryWarden.Net

namespace QueryWarden.Web

open QueryWarden.Database QueryWarden.History QueryWarden.Service QueryWarden.Text

/-! ## What a request can ask for -/

/-- A piece of a form that is in clear already. -/
theorem formText_of_notMem {piece : List Char} (hplus : '+' ∉ piece) (hpercent : '%' ∉ piece) :
    formText piece = piece := by
  have hblank : (piece.map fun c => if c = '+' then ' ' else c) = piece.map id := by
    apply List.map_congr_left
    intro c hc
    apply if_neg
    rintro rfl
    exact hplus hc
  unfold formText
  rw [hblank, List.map_id, Net.percentDecode_of_notMem hpercent, Bytes.decodeLenient_encodeText]

theorem notMem_decimalNumeral {c : Char} (hc : c.isDigit = false) (number : Nat) :
    c ∉ decimalNumeral number := by
  intro hmem
  rw [isDigit_of_mem_decimalNumeral hmem] at hc
  exact Bool.noConfusion hc

/-- The pair that a query string for a limit is read as. -/
theorem formPairs_limit (limit : Nat) :
    formPairs ("limit=".toList ++ decimalNumeral limit) =
      [("limit".toList, decimalNumeral limit)] := by
  have hnumeral : formText (decimalNumeral limit) = decimalNumeral limit := by
    apply formText_of_notMem
    · exact notMem_decimalNumeral rfl limit
    · exact notMem_decimalNumeral rfl limit
  have hname : formText "limit".toList = "limit".toList :=
    formText_of_notMem (by decide) (by decide)
  have hsplit : splitWhere (· == '&') ("limit=".toList ++ decimalNumeral limit) =
      ["limit=".toList ++ decimalNumeral limit] := by
    apply splitWhere_clear
    apply isClear_of_notMem
    intro hmem
    rcases List.mem_append.mp hmem with hmem | hmem
    · exact absurd hmem (by decide)
    · exact notMem_decimalNumeral rfl limit hmem
  unfold formPairs
  rw [hsplit]
  change [(formText "limit".toList, formText (decimalNumeral limit))] = _
  rw [hname, hnumeral]

/-- The request for a listing with a limit. -/
def listingRequest (limit : Nat) : Request :=
  .ofTarget .get ("/api/query/history?limit=".toList ++ decimalNumeral limit) none []

theorem listingRequest_eq (limit : Nat) :
    listingRequest limit = ⟨.get, "/api/query/history".toList,
      some ("limit=".toList ++ decimalNumeral limit), none, []⟩ := rfl

theorem contains_limit {limit : Nat} (hlimit : limit < 2 ^ 64) :
    (WordRange.unsigned 64).Contains limit := by
  have hgreatest : (WordRange.unsigned 64).greatest = 2 ^ 64 - 1 := rfl
  have hleast : (WordRange.unsigned 64).least = 0 := rfl
  constructor <;> omega

theorem readLimit_limit (number : Nat) :
    readLimit (some ("limit=".toList ++ decimalNumeral number)) =
      match (WordRange.unsigned 64).read (decimalNumeral number) with
      | .ok limit => .ok (some (.ofNat limit.toNat))
      | .error fault => .error (.badLimit fault) := by
  unfold readLimit
  rw [Option.getD_some, formPairs_limit, readLimitFrom, if_neg (by decide), if_neg (by decide)]
  rfl

/-- The numeral of a word asks for it. -/
theorem operation_listingRequest (limit : UInt64) :
    (listingRequest limit.toNat).operation = .ok (.history limit) := by
  have hroute : Route.ofPath? "/api/query/history".toList = some .history := by decide
  rw [listingRequest_eq, Request.operation, if_neg Method.noConfusion]
  simp only [hroute, Route.operation]
  rw [readLimit_limit,
    WordRange.read_decimalNumeral (Int.le_refl 0) (contains_limit limit.toNat_lt).2]
  simp only [Int.toNat_natCast, UInt64.ofNat_toNat]
  rfl

theorem operation_listingRequest_of_lt {number : Nat} (hnumber : number < 2 ^ 64) :
    (listingRequest number).operation = .ok (.history (.ofNat number)) := by
  have hoperation := operation_listingRequest (.ofNat number)
  rw [UInt64.toNat_ofNat_of_lt' hnumber] at hoperation
  exact hoperation

theorem orRefuse_eq_ok_iff {ε α : Type} {refuse : ε → Response} {outcome : Except ε α} {value : α} :
    orRefuse refuse outcome = .ok value ↔ outcome = .ok value := by
  cases outcome with
  | error failure => simp [orRefuse, Except.mapError]
  | ok value => simp [orRefuse, Except.mapError]

/-- Only the limit of a query string becomes the limit of a listing. -/
theorem Route.readLimit_of_operation {route : Route} {request : Request} {limit : UInt64}
    (hoperation : route.operation request = .ok (.history limit)) :
    ∃ found, readLimit request.query = .ok found ∧ found.getD defaultLimit = limit := by
  unfold Route.operation at hoperation
  split at hoperation
  all_goals simp [bind_eq_ok_iff, orRefuse_eq_ok_iff] at hoperation
  all_goals exact hoperation

/-- A numeral beyond the words asks for nothing, whatever its last bits are. -/
theorem lt_of_operation {number : Nat} {limit : UInt64}
    (hoperation : (listingRequest number).operation = .ok (.history limit)) :
    number < 2 ^ 64 := by
  unfold Request.operation at hoperation
  split at hoperation
  · cases hoperation
  split at hoperation
  next route hroute =>
    obtain ⟨found, hfound, -⟩ := Route.readLimit_of_operation hoperation
    rw [listingRequest_eq, readLimit_limit] at hfound
    split at hfound
    next read hread =>
      obtain rfl := WordRange.eq_of_read_decimalNumeral hread
      obtain ⟨-, hgreatest⟩ := WordRange.contains_of_read (contains_limit (by decide)) hread
      have hword : (WordRange.unsigned 64).greatest = 2 ^ 64 - 1 := rfl
      omega
    next => cases hfound
  next => cases hoperation

theorem exists_operation_iff {number : Nat} :
    (∃ limit, (listingRequest number).operation = .ok (.history limit)) ↔ number < 2 ^ 64 := by
  constructor
  · rintro ⟨limit, hoperation⟩
    exact lt_of_operation hoperation
  · intro hnumber
    exact ⟨_, operation_listingRequest_of_lt hnumber⟩

/-! ## What the log answers -/

section Listings

variable {store : Store} {records : List Record}
  (hrows : store.rows = records.map StoredRecord.ofRecord)
  (hstorable : ∀ record ∈ records, record.executedAt.IsStorable)

include hrows hstorable

theorem exists_list_iff (limit : UInt64) :
    (∃ listed, store.list limit = .ok listed) ↔
      store.rows = [] ∨ limit.toNat ≤ largestLimit := by
  rw [Store.list_eq hrows hstorable, hrows, List.map_eq_nil_iff]
  split
  next hwithin => simp [hwithin]
  next hbeyond => split <;> simp [hbeyond]

theorem eq_of_list_eq_error {limit : UInt64} {failure : Database.Failure}
    (hfailure : store.list limit = .error failure) :
    failure = .engine (if limit.toNat < 2 ^ 63 then "the limit is too large"
      else "the limit is negative") := by
  rw [Store.list_eq hrows hstorable] at hfailure
  split at hfailure
  · cases hfailure
  split at hfailure
  next hpositive =>
    rw [if_pos hpositive]
    exact (Except.error.inj hfailure).symm
  next hnegative =>
    rw [if_neg hnegative]
    exact (Except.error.inj hfailure).symm

end Listings

/-- What becomes of the limits that can be asked for. -/
structure AnswersLimits (store : Store) : Prop where
  /-- A request can ask for every word of 64 bits, -/
  asked : ∀ limit, (listingRequest limit.toNat).operation = .ok (.history limit)
  /-- and for nothing beyond. -/
  asked_iff : ∀ number, (∃ limit, (listingRequest number).operation = .ok (.history limit)) ↔
    number < 2 ^ 64
  /-- A log with records answers those that the engine can count. -/
  listed_iff : ∀ limit, (∃ listed, store.list limit = .ok listed) ↔
    store.rows = [] ∨ limit.toNat ≤ largestLimit
  /-- Nothing else goes wrong: the others are too large, or with their highest bit negative. -/
  refused : ∀ limit failure, store.list limit = .error failure →
    failure = .engine (if limit.toNat < 2 ^ 63 then "the limit is too large"
      else "the limit is negative")
  length_eq : ∀ limit listed, store.list limit = .ok listed →
    listed.length = min limit.toNat store.rows.length
  /-- A larger limit has the same records in front. -/
  front : ∀ limit more, limit ≤ more → ∀ listed others, store.list limit = .ok listed →
    store.list more = .ok others → listed <+: others

/-- Whatever is appended and however often the log is cleared, it answers every limit that can be
asked for while it is empty, and those up to the engine's largest when it is not. -/
theorem run_answersLimits (commands : List LogCommand) :
    AnswersLimits (Store.empty.run commands).2 := by
  obtain ⟨-, hholds⟩ := Store.Holds.empty.run commands
  rw [List.nil_append] at hholds
  generalize (Store.empty.run commands).2 = store at *
  generalize (Store.empty.run commands).1 = replies at *
  have hstorable : ∀ record ∈ present replies, record.executedAt.IsStorable := by
    intro record hrecord
    exact hholds.storable record (hholds.sublist.mem hrecord)
  refine ⟨operation_listingRequest, fun _ => exists_operation_iff,
    exists_list_iff hholds.rows hstorable, ?_, ?_, ?_⟩
  · intro limit failure hfailure
    exact eq_of_list_eq_error hholds.rows hstorable hfailure
  · intro limit listed hlisted
    rw [eq_take_of_list_eq_ok hholds.rows hstorable hlisted, List.length_take, length_latestFirst,
      hholds.rows, List.length_map]
  · intro limit more hle listed others hlisted hmore
    rw [eq_take_of_list_eq_ok hholds.rows hstorable hlisted,
      eq_take_of_list_eq_ok hholds.rows hstorable hmore]
    exact List.take_prefix_take_left hle

/-- An attempt that was made at the start of 1970. -/
def firstAttempt : LogCommand :=
  .append (.ofNanos 0) (Time.Timestamp.isStorable_ofNanos (by decide))
    ⟨none, "SELECT 1", "", .table, 1, true, none⟩

/-- A limit whose highest bit is set is asked for and refused. -/
theorem listing_refused :
    (listingRequest (2 ^ 63)).operation = .ok (.history (.ofNat (2 ^ 63))) ∧
      (Store.empty.run [firstAttempt]).2.list (.ofNat (2 ^ 63)) =
        .error (.engine "the limit is negative") := by
  constructor
  · exact operation_listingRequest_of_lt (by decide)
  · rfl

end QueryWarden.Web
