import Mathlib.Algebra.Order.Ring.Int
import Mathlib.Data.List.TakeWhile

/-!
# Reading one frame

`host/frame.go` reads newline-delimited frames through a `bufio.Reader`, which hands a long line
over in slices of its buffer. The reader is modelled by the bytes it has not handed out yet, so
that a slice boundary falls wherever the buffer ends; `readFrame` joins the slices, drops what is
over the limit and goes on to the newline. Repeated calls are compared with the stream split at
its newlines.
-/

namespace GrokDesktop.VmHost

variable {ε : Type}

/-! ## The buffered reader -/

/-- `'\n'`. -/
def newline : UInt8 := 10

/-- `'\r'`. -/
def carriageReturn : UInt8 := 13

/-- What `ReadSlice` returns beside a slice without the delimiter: `bufio.ErrBufferFull`, `io.EOF`
or another error of the connection. -/
inductive SliceError (ε : Type) where
  | bufferFull
  | eof
  | other (error : ε)

/-- A `bufio.Reader` over a connection: the length of its buffer, the bytes still to be handed out
and the error the connection ends with (`none` for `io.EOF`). A connection may report that error
together with its last bytes. -/
structure Reader (ε : Type) where
  size : ℕ
  unread : List UInt8
  ending : Option ε
  endsWithData : Bool
  minReadBufferSize : 16 ≤ size

/-- `ReadSlice('\n')`: up to the delimiter where the buffer can hold it, otherwise a full buffer,
otherwise what is left with the error of the connection. -/
def Reader.readSlice (reader : Reader ε) :
    List UInt8 × Option (SliceError ε) × Reader ε :=
  let line := reader.unread.takeWhile (· ≠ newline)
  if line.length < min reader.size reader.unread.length then
    (line ++ [newline], none, { reader with unread := reader.unread.drop (line.length + 1) })
  else if reader.size < reader.unread.length ∨
      reader.size = reader.unread.length ∧ !reader.endsWithData then
    (reader.unread.take reader.size, some .bufferFull,
      { reader with unread := reader.unread.drop reader.size })
  else
    (reader.unread, some (reader.ending.elim .eof .other), { reader with unread := [] })

lemma Reader.readSlice_full {reader reader' : Reader ε} {fragment : List UInt8}
    (h : reader.readSlice = (fragment, some .bufferFull, reader')) :
    reader'.unread.length < reader.unread.length := by
  have hsize := reader.minReadBufferSize
  rw [Reader.readSlice] at h
  split_ifs at h with hline hfull
  · simp at h
  · simp only [Prod.mk.injEq, true_and] at h
    rw [← h.2, List.length_drop]
    omega
  · cases hend : reader.ending <;> simp [hend] at h

/-! ## The loop of `readFrame` -/

/-- The errors of `readFrame`: `errFrameTooLarge`, `io.EOF`, `io.ErrUnexpectedEOF` and those of the
connection. -/
inductive FrameError (ε : Type) where
  | tooLarge
  | eof
  | unexpectedEof
  | other (error : ε)

/-- The loop of `readFrame`. `maxBytes + 1` is computed in a Go `int`; `size` could leave that type
only after `2 ^ 63` bytes of one line and is an integer here. -/
def readLoop (maxBytes : Int64) (reader : Reader ε) (frame : List UInt8) (size : ℤ) :
    Except (FrameError ε) (List UInt8) × Reader ε :=
  match hslice : reader.readSlice with
  | (line, none, reader') =>
    let fragment := line.dropLast
    let size := size + fragment.length
    let frame := if size ≤ (maxBytes + 1).toInt then frame ++ fragment else frame
    let ended : Bool := frame.getLast? = some carriageReturn
    let size := if ended then size - 1 else size
    let frame := if ended then frame.dropLast else frame
    (if maxBytes.toInt < size then .error .tooLarge else .ok frame, reader')
  | (fragment, some .bufferFull, reader') =>
    let size := size + fragment.length
    let frame := if size ≤ (maxBytes + 1).toInt then frame ++ fragment else frame
    readLoop maxBytes reader' frame size
  | (fragment, some .eof, reader') =>
    let size := size + fragment.length
    (.error (if size = 0 then .eof else if maxBytes.toInt < size then .tooLarge
      else .unexpectedEof), reader')
  | (_, some (.other error), reader') => (.error (.other error), reader')
termination_by reader.unread.length
decreasing_by exact Reader.readSlice_full hslice

/-- `readFrame`; `none` is the panic of `make` on a negative capacity, `min(maxBytes, 4096)`. -/
def readFrame (reader : Reader ε) (maxBytes : Int64) :
    Option (Except (FrameError ε) (List UInt8) × Reader ε) :=
  if min maxBytes.toInt 4096 < 0 then none else some (readLoop maxBytes reader [] 0)

/-- The results of repeated calls on one reader, up to a panic. -/
def results (maxBytes : Int64) : ℕ → Reader ε → List (Except (FrameError ε) (List UInt8))
  | 0, _ => []
  | calls + 1, reader =>
    match readFrame reader maxBytes with
    | none => []
    | some (result, reader') => result :: results maxBytes calls reader'

/-! ## What the calls should return -/

/-- A line without one trailing carriage return. -/
def trimmed (line : List UInt8) : List UInt8 :=
  if line.getLast? = some carriageReturn then line.dropLast else line

/-- The result for one newline-terminated line. -/
def lineResult (maxBytes : Int64) (line : List UInt8) : Except (FrameError ε) (List UInt8) :=
  if ((trimmed line).length : ℤ) ≤ maxBytes.toInt then .ok (trimmed line) else .error .tooLarge

/-- The error after the last line, where `rest` is not terminated. -/
def endError (maxBytes : Int64) (ending : Option ε) (rest : List UInt8) : FrameError ε :=
  match ending with
  | some error => .other error
  | none =>
    if rest = [] then .eof
    else if maxBytes.toInt < rest.length then .tooLarge else .unexpectedEof

/-- One result for each line of the stream, then the error of the end, which every later call
meets again with nothing left to read. -/
def lineResults (maxBytes : Int64) (reader : Reader ε) (calls : ℕ) :
    List (Except (FrameError ε) (List UInt8)) :=
  let lines := reader.unread.splitOn newline
  (lines.dropLast.map (lineResult maxBytes) ++
    Except.error (endError maxBytes reader.ending (lines.getLastD [])) ::
      List.replicate calls (Except.error (endError maxBytes reader.ending []))).take calls

/-! ## One call -/

section Limit

variable {maxBytes : Int64} {read frame line tail : List UInt8} {size : ℤ} {reader : Reader ε}

/-- What the loop has gathered of the bytes `read` of the current line: all of them while they fit
the limit and one carriage return. Past that only their number counts. -/
def Gathered (maxBytes : Int64) (read frame : List UInt8) (size : ℤ) : Prop :=
  size = read.length ∧ (size ≤ maxBytes.toInt + 1 → frame = read)

/-- A slice is gathered, where the limit has a successor. -/
theorem Gathered.append (hsucc : (maxBytes + 1).toInt = maxBytes.toInt + 1)
    (h : Gathered maxBytes read frame size) (fragment : List UInt8) :
    Gathered maxBytes (read ++ fragment)
      (if size + fragment.length ≤ (maxBytes + 1).toInt then frame ++ fragment else frame)
      (size + fragment.length) := by
  obtain ⟨hsize, hframe⟩ := h
  refine ⟨by simp [hsize], fun hfits => ?_⟩
  rw [hsucc, if_pos hfits, hframe (by omega)]

/-- The end of a complete line: the carriage return is taken off and the rest compared with the
limit. -/
lemma Gathered.lineResult_eq (h : Gathered maxBytes read frame size) :
    (if maxBytes.toInt < (if frame.getLast? = some carriageReturn then size - 1 else size) then
        .error .tooLarge
      else .ok (if frame.getLast? = some carriageReturn then frame.dropLast else frame)) =
      (lineResult maxBytes read : Except (FrameError ε) _) := by
  obtain ⟨hsize, hframe⟩ := h
  rcases le_or_gt size (maxBytes.toInt + 1) with hsmall | hlarge
  · rw [lineResult, trimmed]
    split_ifs with hcr <;> grind
  · -- one carriage return does not bring the line back under the limit
    rw [lineResult, trimmed, if_pos (by split_ifs <;> omega), if_neg]
    split_ifs <;> simp <;> omega

/-- A call reads on to the end of its line, wherever the buffer cuts it, and leaves the reader
after the newline, or with nothing to read. -/
lemma readLoop_eq (hsucc : (maxBytes + 1).toInt = maxBytes.toInt + 1)
    (hunread : reader.unread = line ++ tail) (hline : newline ∉ line)
    (htail : ∀ byte ∈ tail.head?, byte = newline) (hread : Gathered maxBytes read frame size) :
    readLoop maxBytes reader frame size =
      (if tail = [] then .error (endError maxBytes reader.ending (read ++ line))
        else lineResult maxBytes (read ++ line), { reader with unread := tail.tail }) := by
  -- the induction is on what is left of the line: a full buffer takes at least 16 bytes of it
  induction hlen : line.length using Nat.strong_induction_on generalizing
    reader read frame line size with
  | _ length ih =>
    have hwhile : reader.unread.takeWhile (· ≠ newline) = line := by
      rw [hunread, List.takeWhile_append_of_pos fun byte hbyte => by
        simpa using fun h : byte = newline => hline (h ▸ hbyte)]
      cases tail with simp_all
    have hlength := congrArg List.length hunread
    rw [List.length_append] at hlength
    have hall := hread.append hsucc
    by_cases hin : line.length < min reader.size reader.unread.length
    · obtain ⟨rest, rfl⟩ : ∃ rest, tail = newline :: rest := by
        cases tail with
        | nil => simp at hlength; omega
        | cons byte rest => exact ⟨rest, by simp_all⟩
      have hslice : reader.readSlice =
          (line ++ [newline], none, { reader with unread := rest }) := by
        simp only [Reader.readSlice, hwhile, if_pos hin]
        simp [hunread]
      rw [readLoop, hslice]
      simp only [List.dropLast_concat, decide_eq_true_eq, (hall line).lineResult_eq]
      simp
    by_cases hfull : reader.size < reader.unread.length ∨
        reader.size = reader.unread.length ∧ !reader.endsWithData
    · have hle : reader.size ≤ line.length := by omega
      have hslice : reader.readSlice = (line.take reader.size, some .bufferFull,
          { reader with unread := line.drop reader.size ++ tail }) := by
        simp only [Reader.readSlice, hwhile, if_neg hin, if_pos hfull]
        rw [hunread, List.take_append_of_le_length hle, List.drop_append_of_le_length hle]
      have hsize := reader.minReadBufferSize
      rw [readLoop, hslice]
      dsimp only
      rw [ih _ (by simp; omega) rfl (fun h => hline (List.mem_of_mem_drop h)) (hall _) rfl,
        List.append_assoc, List.take_append_drop]
    · obtain rfl : tail = [] := List.eq_nil_of_length_eq_zero (by omega)
      have hslice : reader.readSlice = (line, some (reader.ending.elim .eof .other),
          { reader with unread := [] }) := by
        simp only [Reader.readSlice, hwhile, if_neg hin, if_neg hfull]
        rw [hunread, List.append_nil]
      rw [readLoop, hslice]
      cases hend : reader.ending with
      | some error => rfl
      | none =>
        have hempty : (read.length + line.length : ℤ) = 0 ↔ read ++ line = [] := by
          rw [← List.length_eq_zero_iff, List.length_append]
          omega
        simp [endError, hread.1, hempty]

/-! ## Repeated calls -/

lemma lineResults_succ (calls : ℕ) (hunread : reader.unread = line ++ tail)
    (hline : newline ∉ line) (htail : ∀ byte ∈ tail.head?, byte = newline) :
    lineResults maxBytes reader (calls + 1) =
      (if tail = [] then .error (endError maxBytes reader.ending line)
        else lineResult maxBytes line) ::
          lineResults maxBytes { reader with unread := tail.tail } calls := by
  cases tail with
  | nil =>
    have hsplit : reader.unread.splitOn newline = [line] := by
      rw [hunread, List.append_nil, List.splitOn_eq_singleton hline]
    have hnil : ([] : List UInt8).splitOn newline = [[]] := rfl
    simp [lineResults, hsplit, hnil, ← List.replicate_succ]
  | cons byte rest =>
    have hsplit : reader.unread.splitOn newline = line :: rest.splitOn newline := by
      rw [hunread, htail byte (by simp)]
      exact List.splitOnP_append_cons_of_forall_mem
        (fun byte hbyte => by simpa using fun h : byte = newline => hline (h ▸ hbyte)) newline
        (by simp) rest
    obtain ⟨first, others, hrest⟩ := List.exists_cons_of_ne_nil (List.splitOn_ne_nil newline rest)
    simp only [lineResults, hsplit, hrest, List.dropLast_cons_cons, List.map_cons, List.cons_append,
      List.take_succ_cons, List.replicate_succ', List.getLastD_cons]
    rw [← List.cons_append, ← List.append_assoc, List.take_append_of_le_length (by simp; omega)]
    simp only [List.tail_cons, hrest, List.getLastD_cons, reduceCtorEq, if_false]

/-- Repeated calls return one result for each line and then the error of the end, for every limit
a buffer can be made for and whose successor is an `int`, wherever the buffer cuts the stream. -/
theorem results_eq_lineResults (hneg : 0 ≤ maxBytes) (hmax : maxBytes < Int64.maxValue)
    (calls : ℕ) (reader : Reader ε) :
    results maxBytes calls reader = lineResults maxBytes reader calls := by
  have hlo : (0 : ℤ) ≤ maxBytes.toInt := Int64.le_iff_toInt_le.1 hneg
  have hhi : maxBytes.toInt < 2 ^ 63 - 1 := Int64.lt_iff_toInt_lt.1 hmax
  have hsucc : (maxBytes + 1).toInt = maxBytes.toInt + 1 := by
    rw [Int64.toInt_add]
    exact Int.bmod_eq_of_le (by simp; omega) (by simp; omega)
  have hmake : ¬ min maxBytes.toInt 4096 < 0 := by omega
  have hstart : Gathered maxBytes [] [] 0 := ⟨rfl, fun _ => rfl⟩
  induction calls generalizing reader with
  | zero => simp [results, lineResults]
  | succ calls ih =>
    have hunread := (List.takeWhile_append_dropWhile (p := (· ≠ newline)) (l := reader.unread)).symm
    have hline : newline ∉ reader.unread.takeWhile (· ≠ newline) :=
      fun h => by simpa using List.mem_takeWhile_imp h
    have htail : ∀ byte ∈ (reader.unread.dropWhile (· ≠ newline)).head?, byte = newline := by
      intro byte hbyte
      have hhead := List.head?_dropWhile_not (· ≠ newline) reader.unread
      rw [Option.mem_def.1 hbyte] at hhead
      simpa using hhead
    rw [results, readFrame, if_neg hmake, readLoop_eq hsucc hunread hline htail hstart,
      lineResults_succ calls hunread hline htail]
    simp only [ih, List.nil_append]

/-- After a line over the limit the next one is returned whole. -/
theorem results_after_long_line :
    (0 : Int64) ≤ 4 ∧ 4 < Int64.maxValue ∧
      results 4 3 (⟨16, [1, 2, 3, 4, 5, 10, 6, 13, 10], none, false, le_rfl⟩ : Reader Unit) =
        [.error .tooLarge, .ok [6], .error .eof] :=
  ⟨by decide, by decide, results_eq_lineResults (by decide) (by decide) 3 _⟩

end Limit

/-- The successor of the largest limit is negative, so that no byte is gathered and a line comes
back as an empty frame. -/
theorem results_largest_limit :
    ¬ ∀ (maxBytes : Int64) (calls : ℕ) (reader : Reader Unit),
      results maxBytes calls reader = lineResults maxBytes reader calls := by
  intro h
  let reader : Reader Unit := ⟨16, [97, 10], none, false, le_rfl⟩
  have hslice : reader.readSlice = ([97, 10], none, { reader with unread := [] }) := rfl
  have hresults : results Int64.maxValue 1 reader = [.ok []] := by
    rw [results, readFrame, if_neg (by decide), readLoop, hslice]
    rfl
  have hlines : lineResults Int64.maxValue reader 1 = [.ok [97]] := rfl
  have := h Int64.maxValue 1 reader
  rw [hresults, hlines] at this
  cases this

end GrokDesktop.VmHost
