import Turnstile.Proofs.Store.Consistency
import Turnstile.Proofs.Store.Statement
import Turnstile.Proofs.Store.Steps

/-!
# Updates of a transaction that can write

A transaction can write if it has the lock, or if nobody has it and nothing has been written since it
began; one that has waited can write once the lock is handed to it.  An update then succeeds exactly
if all new values fit their column, and fails with an overflow otherwise, without a trace in the rows.
A debit adds the opposite of its amount.  The least amount has no opposite, so its debit is refused
whatever the rows hold.
-/

namespace Turnstile.Store

/-- The rows that an open transaction sees. -/
def view? (s : Store) (t : Ticket) : Option (List Row) :=
  (s.transaction? t).bind Transaction.table

variable {s : Store} {t : Ticket} {tx : Transaction} {rows : List Row} {stmt : Statement}

/-! ## Statements of a transaction that can write -/

/-- A transaction that can write is not refused for the sake of others, and does not wait. -/
theorem exec_of_enters (hopen : s.closed = false) (htx : s.transaction? t = some tx)
    (hrows : tx.table = some rows) (henters : s.Enters t tx) (stmt : Statement) :
    s.exec t stmt =
      (.settled ((s.hold t).applyStatement t tx stmt).1, ((s.hold t).applyStatement t tx stmt).2) := by
  have hclosed : ¬ s.closed = true := by simp [hopen]
  unfold exec
  simp only [if_neg hclosed, htx, hrows, Option.isNone_some, Bool.false_eq_true, if_false]
  obtain hholder | ⟨hholder, hversion⟩ := henters
  · simp only [hholder, if_true, hold_of_holder hholder]
  · simp only [hholder, request_eq_hold hholder, execWithLock]
    rw [if_pos hversion]

theorem resume_of_holder (htx : s.transaction? t = some tx) (hholder : s.lock.holder = some t)
    (hversion : s.version = tx.version) (stmt : Statement) :
    s.resume t stmt = (s.hold t).applyStatement t tx stmt := by
  unfold resume
  simp only [htx, hholder, if_true, execWithLock, hversion, hold_of_holder hholder]

theorem view?_of_transaction (htx : s.transaction? t = some tx) : s.view? t = tx.table := by
  rw [view?, htx, Option.bind_some]

theorem view?_written (htx : s.transaction? t = some tx) (after : List Row) :
    (s.written t tx after).view? t = some after := by
  rw [view?, written, transaction?_setTransaction, if_pos rfl, htx]
  rfl

/-! ## Updates -/

/-- An update of the rows with a key succeeds just if it is possible.  It then counts the rows that
it has moved; otherwise it overflows, and the transaction sees what it saw before. -/
structure Exact (possible : Prop) (t : Ticket) (key : Int64) (delta : Int) (rows : List Row)
    (result : Except Error Nat × Store) : Prop where
  succeeds : possible ↔ result.1 = .ok (count key rows) ∧
    ∃ after, result.2.view? t = some after ∧ List.Forall₂ (Row.Moves key delta) rows after
  overflows : ¬ possible →
    result.1 = .error (.storage "integer overflow") ∧ result.2.view? t = some rows

/-- How a transaction that sees these rows takes an amount from the rows with a key, and adds it. -/
structure Accounts (t : Ticket) (rows : List Row) (key amount : Int64)
    (run : Statement → Except Error Nat × Store) : Prop where
  credit : Exact (Room key amount.toInt rows) t key amount.toInt rows
    (run (.credit (.integer key) (.integer amount)))
  debit : Exact (amount ≠ Int64.minValue ∧ Room key (-amount.toInt) rows) t key (-amount.toInt) rows
    (run (.debit (.integer key) (.integer amount)))

/-- An update that the transaction makes under the lock is exact. -/
theorem exact_applyStatement (htx : s.transaction? t = some tx) (hrows : tx.table = some rows)
    (key amount : Int64) (sign : Int) (hstmt : stmt.apply rows = update (.integer key) (.integer amount) sign rows) :
    Exact (Numeral.Fits (amount.toInt * sign) ∧ Room key (amount.toInt * sign) rows) t key
      (amount.toInt * sign) rows (s.applyStatement t tx stmt) := by
  have hupdates := updates key amount sign rows
  rw [← hstmt] at hupdates
  cases happly : stmt.apply rows with
  | error f =>
    rw [happly] at hupdates
    rw [applyStatement_of_error hrows happly]
    cases hupdates with
    | overflow hout =>
      constructor
      case succeeds => exact ⟨fun h ↦ absurd h hout, fun h ↦ nomatch h.1⟩
      case overflows => exact fun _ ↦ ⟨rfl, (view?_of_transaction htx).trans hrows⟩
  | ok result =>
    rw [happly] at hupdates
    rw [applyStatement_of_ok hrows happly]
    cases hupdates with
    | done hfits hroom hmoves =>
      constructor
      case succeeds => exact iff_of_true ⟨hfits, hroom⟩ ⟨rfl, _, view?_written htx _, hmoves⟩
      case overflows => exact fun h ↦ absurd ⟨hfits, hroom⟩ h

/-- Both updates under the lock: an amount always fits, and its opposite unless it is the least. -/
theorem accounts_applyStatement (htx : s.transaction? t = some tx) (hrows : tx.table = some rows)
    (key amount : Int64) : Accounts t rows key amount (s.applyStatement t tx) where
  credit := by
    have happly : (Statement.credit (.integer key) (.integer amount)).apply rows =
        update (.integer key) (.integer amount) 1 rows := rfl
    have hexact := exact_applyStatement htx hrows key amount 1 happly
    have hfits : Numeral.Fits amount.toInt := Numeral.fits_toInt amount
    rw [Int.mul_one] at hexact
    simpa only [hfits, true_and] using hexact
  debit := by
    have happly : (Statement.debit (.integer key) (.integer amount)).apply rows =
        update (.integer key) (.integer amount) (-1) rows := rfl
    have hexact := exact_applyStatement htx hrows key amount (-1) happly
    rw [Int.mul_neg_one, Numeral.fits_neg_toInt] at hexact
    exact hexact

/-- Updates with integers are exact in a transaction that can write.  They succeed just if all new
values fit, the debit of the least amount apart. -/
theorem exact_unless_least (htx : s.transaction? t = some tx) (hrows : tx.table = some rows)
    (key amount : Int64) :
    (s.closed = false → s.Enters t tx →
      ∃ run, (∀ stmt, s.exec t stmt = (.settled (run stmt).1, (run stmt).2)) ∧
        Accounts t rows key amount run) ∧
      (s.lock.holder = some t → s.version = tx.version →
        Accounts t rows key amount (s.resume t)) := by
  have haccounts : Accounts t rows key amount ((s.hold t).applyStatement t tx) :=
    accounts_applyStatement (s := s.hold t) htx hrows key amount
  constructor
  · exact fun hopen henters ↦ ⟨_, exec_of_enters hopen htx hrows henters, haccounts⟩
  · intro hholder hversion
    rw [funext (resume_of_holder htx hholder hversion)]
    exact haccounts

/-- A store whose one transaction has the lock and sees these rows. -/
def writing (rows : List Row) : Store where
  busyTimeout := 0
  table := some []
  version := 1
  closed := false
  lock := ⟨some 2, []⟩
  transactions := [(2, ⟨1, some rows, true⟩)]
  nextTicket := 3

/-- Two rows with one key, the first at a limit, and a row without a key. -/
def limits : List Row :=
  [⟨some 1, Int64.maxValue⟩, ⟨none, 7⟩, ⟨some 1, -1⟩]

theorem exact_unless_least_limits :
    (writing limits).closed = false ∧ (writing limits).Enters 2 ⟨1, some limits, true⟩ ∧
      ((writing limits).exec 2 (.debit (.integer 1) (.integer Int64.maxValue))).1 =
        .settled (.ok 2) ∧
      ((writing limits).exec 2 (.credit (.integer 1) (.integer Int64.maxValue))).1 =
        .settled (.error (.storage "integer overflow")) ∧
      (∃ run, (∀ stmt, (writing limits).exec 2 stmt = (.settled (run stmt).1, (run stmt).2)) ∧
        Accounts 2 limits 1 Int64.maxValue run) ∧
      Accounts 2 limits 1 Int64.maxValue ((writing limits).resume 2) :=
  have hexact := exact_unless_least (s := writing limits) (t := 2) rfl rfl 1 Int64.maxValue
  ⟨rfl, .inl rfl, rfl, rfl, hexact.1 rfl (.inl rfl), hexact.2 rfl rfl⟩

/-- The debit of the least amount is refused where all new values fit, and where no row has the
key. -/
theorem debit_least_refused :
    Room 1 (-Int64.minValue.toInt) limits.tail ∧ Room 2 (-Int64.minValue.toInt) limits.tail ∧
      count 2 limits.tail = 0 ∧
      ((writing limits.tail).exec 2 (.debit (.integer 1) (.integer Int64.minValue))).1 =
        .settled (.error (.storage "integer overflow")) ∧
      ((writing limits.tail).exec 2 (.debit (.integer 2) (.integer Int64.minValue))).1 =
        .settled (.error (.storage "integer overflow")) :=
  ⟨by decide, by decide, rfl, rfl, rfl⟩

end Turnstile.Store
