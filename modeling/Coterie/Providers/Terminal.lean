/-
  Coterie.Providers.Terminal

  Observing the process of a foreground session (`terminal.rs`): the record that the kernel shows of
  it is read, and compared with the identity that was recorded.  Texts are their bytes.

  `ProcessRecord.line` is what the kernel writes, with a name that the process has chosen: the bytes of
  the name stand in it as they are.  The record is text for the reader, so that the names that are
  no UTF-8 are not read (`readBack_iff`).
-/

import Coterie.Base.Except
import Coterie.Base.Fields
import Coterie.Providers.Redaction

namespace Coterie

/-! ## Reading the record of a process -/

/-- Why something is not read: the operating system, or the reader itself, refuses. -/
inductive ProcError where
  | notFound
  | esrch
  | invalidData
  | exceedsSizeLimit
  | invalidStatRecord
  | invalidBootIdentity
  | other
deriving DecidableEq, Repr

def ProcError.absent : ProcError → Bool
  | .notFound | .esrch => true
  | _ => false

inductive TerminalObservation where
  | livePty
  | closedPty
  | nonTerminal
  | missingProcess
  | exitedProcess
  | identityMismatch
  | inputChanged
  | unavailable
deriving DecidableEq, Repr

structure ProcessStat where
  processId  : UInt32
  parentId   : UInt32
  startTicks : UInt64
  exited     : Bool
deriving DecidableEq

/-- Read a text of at most 8192 bytes. -/
def readBounded (file : Except ProcError (List UInt8)) : Except ProcError (List UInt8) := do
  let value := (← file).take 8193
  if ¬ Utf8.Valid value then .error .invalidData
  else if 8192 < value.length then .error .exceedsSizeLimit
  else .ok value

/-- "R", "S", "D", "Z", "T", "t", "X", "x", "K", "W", "P" and "I" -/
def processStates : List (List UInt8) :=
  [[0x52], [0x53], [0x44], [0x5a], [0x54], [0x74], [0x58], [0x78], [0x4b], [0x57], [0x50], [0x49]]

/-- "Z", "X" and "x" -/
def exitedStates : List (List UInt8) :=
  [[0x5a], [0x58], [0x78]]

def readUInt32 (text : List UInt8) : Option UInt32 :=
  (Fields.unsigned? UInt32.size text).map UInt32.ofNat

def readUInt64 (text : List UInt8) : Option UInt64 :=
  (Fields.unsigned? UInt64.size text).map UInt64.ofNat

/-- Linux encloses comm in parentheses but does not escape parentheses or whitespace inside it.
    Numeric fields begin after the last closing one. -/
def parseStat (value : List UInt8) : Option ProcessStat := do
  let (processId, rest) ← Fields.splitOnce [0x20, 0x28] value
  let (_, fields) ← Fields.rsplitOnce 0x29 rest
  let fields := Fields.splitWhitespace fields
  let state ← fields.head?
  if state ∉ processStates then none
  else
    return {
      processId  := ← readUInt32 processId
      parentId   := ← fields[1]?.bind readUInt32
      startTicks := ← fields[19]?.bind readUInt64
      exited     := decide (state ∈ exitedStates) }

def processStat (stat : Except ProcError (List UInt8)) : Except ProcError ProcessStat := do
  match parseStat (← readBounded stat) with
  | some found => .ok found
  | none => .error .invalidStatRecord

/-- A boot identity: hexadecimal digits with hyphens between. -/
def isBootIdentity (value : List UInt8) : Bool :=
  value.length == 36 && value.zipIdx.all fun (byte, index) =>
    if index ∈ [8, 13, 18, 23] then byte == 0x2d else isAsciiHexdigit byte

def bootId (file : Except ProcError (List UInt8)) : Except ProcError (List UInt8) := do
  let value := Fields.trim (← readBounded file)
  if isBootIdentity value = true then .ok value else .error .invalidBootIdentity

/-! ## Identities -/

/-- The identity of a process, without the input that it was given. -/
structure ForegroundIdentity where
  processId  : UInt32
  bootId     : List UInt8
  startTicks : UInt64
  userId     : UInt32
deriving DecidableEq

/-- What the operating system answers about a process: the contents of its record, the owner of its
    directory, and the contents of the boot identity. -/
structure ProcessDirectory where
  stat : Except ProcError (List UInt8)
  uid  : Except ProcError UInt32
  boot : Except ProcError (List UInt8)

/-- What is wrong with the process, if anything is. -/
def ForegroundIdentity.verify (self : ForegroundIdentity) (directory : ProcessDirectory) :
    Except ProcError (Option TerminalObservation) :=
  match processStat directory.stat with
  | .error error => if error.absent then .ok (some .missingProcess) else .error error
  | .ok stat =>
      if stat.processId ≠ self.processId ∨ stat.startTicks ≠ self.startTicks then
        .ok (some .identityMismatch)
      else do
        let uid ← directory.uid
        if uid ≠ self.userId then return some .identityMismatch
        else do
          let boot ← Coterie.bootId directory.boot
          if boot ≠ self.bootId then return some .identityMismatch
          else return if stat.exited then some .exitedProcess else none

/-! ## What the kernel writes -/

/-- The states of a process. -/
inductive ProcessState where
  | running
  | sleeping
  | diskSleep
  | zombie
  | stopped
  | tracingStop
  | dead
  | deadOld
  | wakekill
  | waking
  | parked
  | idle
deriving DecidableEq, Repr

/-- The letter of a state. -/
def ProcessState.letter : ProcessState → UInt8
  | running     => 0x52
  | sleeping    => 0x53
  | diskSleep   => 0x44
  | zombie      => 0x5a
  | stopped     => 0x54
  | tracingStop => 0x74
  | dead        => 0x58
  | deadOld     => 0x78
  | wakekill    => 0x4b
  | waking      => 0x57
  | parked      => 0x50
  | idle        => 0x49

def ProcessState.exited : ProcessState → Bool
  | zombie | dead | deadOld => true
  | _ => false

/-- The record of a process.  `earlier` are the fields from the process group to the interval timer,
    `later` those from the size of the memory on. -/
structure ProcessRecord where
  processId  : UInt32
  name       : List UInt8
  state      : ProcessState
  parentId   : UInt32
  earlier    : Vector Int 17
  startTicks : UInt64
  later      : List Int

namespace ProcessRecord

/-- The fields behind the name. -/
def fields (record : ProcessRecord) : List (List UInt8) :=
  [record.state.letter] :: Fields.decimal record.parentId.toNat ::
    (record.earlier.toList.map Fields.signed ++
      Fields.decimal record.startTicks.toNat :: record.later.map Fields.signed)

/-- The line that is read. -/
def line (record : ProcessRecord) : List UInt8 :=
  Fields.decimal record.processId.toNat ++ [0x20, 0x28] ++
    (record.name ++ 0x29 :: (Fields.spaced record.fields ++ [0x0a]))

/-- The values that reading it should give. -/
def stat (record : ProcessRecord) : ProcessStat where
  processId  := record.processId
  parentId   := record.parentId
  startTicks := record.startTicks
  exited     := record.state.exited

end ProcessRecord

/-- A boot identity that the kernel gives. -/
structure BootIdentity where
  text       : List UInt8
  wellFormed : isBootIdentity text = true

/-- The file that a boot identity stands in. -/
def BootIdentity.file (boot : BootIdentity) : List UInt8 :=
  boot.text ++ [0x0a]

/-! ## Reading what the kernel writes -/

theorem readBounded_eq_ok {bytes value : List UInt8} :
    readBounded (.ok bytes) = .ok value ↔ value = bytes ∧ Utf8.Valid bytes ∧ bytes.length ≤ 8192 := by
  show (if ¬ Utf8.Valid (bytes.take 8193) then Except.error ProcError.invalidData
    else if 8192 < (bytes.take 8193).length then .error .exceedsSizeLimit
    else .ok (bytes.take 8193)) = _ ↔ _
  have hlength : (bytes.take 8193).length = min 8193 bytes.length := List.length_take
  constructor
  · intro h
    split at h
    · cases h
    · next hvalid =>
        split at h
        · cases h
        · next hshort =>
            have hwhole : bytes.take 8193 = bytes := List.take_of_length_le (by omega)
            rw [hwhole] at h hvalid hshort
            cases h
            exact ⟨rfl, Classical.not_not.mp hvalid, by omega⟩
  · rintro ⟨rfl, hvalid, hshort⟩
    rw [List.take_of_length_le (by omega), if_neg (not_not_intro hvalid), if_neg (by omega)]

theorem readUInt32_decimal (n : UInt32) : readUInt32 (Fields.decimal n.toNat) = some n := by
  rw [readUInt32, Fields.unsigned?_decimal n.toNat_lt_size, Option.map_some, UInt32.ofNat_toNat]

theorem readUInt64_decimal (n : UInt64) : readUInt64 (Fields.decimal n.toNat) = some n := by
  rw [readUInt64, Fields.unsigned?_decimal n.toNat_lt_size, Option.map_some, UInt64.ofNat_toNat]

theorem ProcessState.mem_processStates (state : ProcessState) : [state.letter] ∈ processStates := by
  cases state <;> decide

theorem ProcessState.mem_exitedStates (state : ProcessState) :
    decide ([state.letter] ∈ exitedStates) = state.exited := by
  cases state <;> decide

theorem ProcessState.isField (state : ProcessState) : Fields.IsField [state.letter] := by
  constructor
  · exact List.cons_ne_nil _ _
  · cases state <;> decide

namespace ProcessRecord

variable (record : ProcessRecord)

theorem isField_fields : ∀ word ∈ record.fields, Fields.IsField word := by
  intro word hword
  simp only [fields, List.mem_cons, List.mem_append, List.mem_map] at hword
  rcases hword with rfl | rfl | ⟨n, -, rfl⟩ | rfl | ⟨n, -, rfl⟩
  · exact record.state.isField
  · exact Fields.isField_decimal _
  · exact Fields.isField_signed n
  · exact Fields.isField_decimal _
  · exact Fields.isField_signed n

/-- The start time is where the reader looks for it. -/
theorem fields_startTicks :
    record.fields[19]? = some (Fields.decimal record.startTicks.toNat) := by
  have hlength : (record.earlier.toList.map Fields.signed).length = 17 := by
    rw [List.length_map, Vector.length_toList]
  rw [fields, List.getElem?_cons_succ, List.getElem?_cons_succ,
    List.getElem?_append_right (by omega), hlength]
  rfl

/-- The last parenthesis of the line is the one behind the name. -/
theorem closing_not_mem : (0x29 : UInt8) ∉ Fields.spaced record.fields ++ [0x0a] := by
  rw [List.mem_append, not_or]
  refine ⟨Fields.not_mem_spaced (by decide) fun word hword => ?_, by decide⟩
  simp only [fields, List.mem_cons, List.mem_append, List.mem_map] at hword
  rcases hword with rfl | rfl | ⟨n, -, rfl⟩ | rfl | ⟨n, -, rfl⟩
  · cases record.state <;> decide
  · exact Fields.not_mem_decimal (by decide) _
  · exact Fields.not_mem_signed (by decide) (by decide) n
  · exact Fields.not_mem_decimal (by decide) _
  · exact Fields.not_mem_signed (by decide) (by decide) n

/-- Whatever the name is, the values are found in the line. -/
theorem parseStat_line : parseStat record.line = some record.stat := by
  have hblank : (0x20 : UInt8) ∉ Fields.decimal record.processId.toNat :=
    Fields.not_mem_decimal (by decide) _
  rw [parseStat, line, Fields.splitOnce_append hblank [0x28]]
  show (Fields.rsplitOnce _ _).bind _ = _
  rw [Fields.rsplitOnce_append _ record.closing_not_mem]
  show (Fields.splitWhitespace _).head?.bind _ = _
  rw [Fields.splitWhitespace_fields record.isField_fields]
  have hstate : record.fields.head? = some [record.state.letter] := rfl
  have hparent : record.fields[1]? = some (Fields.decimal record.parentId.toNat) := rfl
  rw [hstate, hparent, record.fields_startTicks]
  show (if [record.state.letter] ∉ processStates then none else _) = _
  rw [if_neg (not_not_intro record.state.mem_processStates)]
  show (readUInt32 _).bind _ = _
  rw [readUInt32_decimal]
  show (readUInt32 _).bind _ = _
  rw [readUInt32_decimal]
  show (readUInt64 _).bind _ = _
  rw [readUInt64_decimal]
  show some { record.stat with exited := decide ([record.state.letter] ∈ exitedStates) } = _
  rw [record.state.mem_exitedStates]
  rfl

/-- The line is UTF-8 where the name is. -/
theorem valid_line_iff : Utf8.Valid record.line ↔ Utf8.Valid record.name := by
  have hbefore : Utf8.Valid (Fields.decimal record.processId.toNat ++ [0x20, 0x28]) := by
    apply Utf8.Valid.ascii
    rw [List.all_append, (Fields.isField_decimal _).ascii]
    rfl
  have hbehind : Utf8.Valid (0x29 :: (Fields.spaced record.fields ++ [0x0a])) := by
    apply Utf8.Valid.ascii
    rw [List.all_cons, List.all_append, Fields.spaced_ascii record.isField_fields]
    rfl
  constructor
  · intro h
    have hname := Utf8.Valid.of_append h hbefore
    -- the name ends where the parenthesis begins
    have hplace : Utf8.isBoundary
        (record.name ++ 0x29 :: (Fields.spaced record.fields ++ [0x0a])) record.name.length =
          true := by
      rw [Utf8.isBoundary, List.getElem?_append_right (Nat.le_refl _), Nat.sub_self]
      show (_ || !Utf8.isContinuation 0x29) = true
      rw [show Utf8.isContinuation 0x29 = false by decide, Bool.not_false, Bool.or_true]
    have htake := ((hname.isBoundary_iff _).mp hplace).2
    rw [List.take_left] at htake
    exact htake
  · intro h
    exact hbefore.append (h.append hbehind)

/-- The values are read where the line is a text and not too long; otherwise nothing is. -/
theorem processStat_line {found : ProcessStat} :
    processStat (.ok record.line) = .ok found ↔
      found = record.stat ∧ Utf8.Valid record.name ∧ record.line.length ≤ 8192 := by
  constructor
  · intro h
    obtain ⟨value, hvalue, h⟩ := Except.bind_eq_ok.mp h
    obtain ⟨rfl, hvalid, hlength⟩ := readBounded_eq_ok.mp hvalue
    rw [parseStat_line] at h
    cases h
    exact ⟨rfl, record.valid_line_iff.mp hvalid, hlength⟩
  · rintro ⟨rfl, hvalid, hlength⟩
    refine Except.bind_eq_ok.mpr ⟨record.line, ?_, ?_⟩
    · exact readBounded_eq_ok.mpr ⟨rfl, record.valid_line_iff.mpr hvalid, hlength⟩
    · rw [parseStat_line]

end ProcessRecord

theorem BootIdentity.isField (boot : BootIdentity) : Fields.IsField boot.text := by
  have hwell := boot.wellFormed
  rw [isBootIdentity, Bool.and_eq_true, beq_iff_eq] at hwell
  constructor
  · intro hempty
    rw [hempty] at hwell
    cases hwell.1
  · rw [List.all_eq_true]
    intro byte hbyte
    obtain ⟨index, hlt, rfl⟩ := List.mem_iff_getElem.mp hbyte
    have hone := List.all_eq_true.mp hwell.2 (boot.text[index], index)
      (List.mem_zipIdx_iff_getElem?.mpr (List.getElem?_eq_getElem hlt))
    have hall : ∀ n : Fin 256, (UInt8.ofFin n == 0x2d || isAsciiHexdigit (UInt8.ofFin n)) = true →
        (0x21 ≤ UInt8.ofFin n && UInt8.ofFin n ≤ 0x7f) = true := by
      decide +kernel
    refine hall boot.text[index].toFin ?_
    show (boot.text[index] == 0x2d || isAsciiHexdigit boot.text[index]) = true
    rw [Bool.or_eq_true]
    dsimp only at hone
    split at hone
    · exact .inl hone
    · exact .inr hone

/-- The boot identity is read from its file. -/
theorem bootId_file (boot : BootIdentity) : bootId (.ok boot.file) = .ok boot.text := by
  have hlength : boot.text.length = 36 := by
    have hwell := boot.wellFormed
    rw [isBootIdentity, Bool.and_eq_true, beq_iff_eq] at hwell
    exact hwell.1
  have hread : readBounded (.ok boot.file) = .ok boot.file := by
    refine readBounded_eq_ok.mpr ⟨rfl, ?_, ?_⟩
    · apply Utf8.Valid.ascii
      rw [BootIdentity.file, List.all_append, boot.isField.ascii]
      rfl
    · rw [BootIdentity.file, List.length_append, hlength]
      decide
  refine Except.bind_eq_ok.mpr ⟨boot.file, hread, ?_⟩
  rw [BootIdentity.file, Fields.trim_line boot.isField]
  exact if_pos boot.wellFormed

/-! ## Verified identities -/

/-- The identity is that of the process with a record, in a boot. -/
def ForegroundIdentity.Names (self : ForegroundIdentity) (record : ProcessRecord) (owner : UInt32)
    (boot : BootIdentity) : Prop :=
  self.processId = record.processId ∧ self.startTicks = record.startTicks ∧ self.userId = owner ∧
    self.bootId = boot.text

instance (self : ForegroundIdentity) (record : ProcessRecord) (owner : UInt32)
    (boot : BootIdentity) : Decidable (self.Names record owner boot) :=
  inferInstanceAs (Decidable (_ ∧ _ ∧ _ ∧ _))

/-- What the operating system answers about a process that has a record. -/
def ProcessRecord.directory (record : ProcessRecord) (owner : UInt32) (boot : BootIdentity) :
    ProcessDirectory where
  stat := .ok record.line
  uid  := .ok owner
  boot := .ok boot.file

/-- A process whose record is not read is not verified. -/
theorem ForegroundIdentity.verify_unread (self : ForegroundIdentity) {directory : ProcessDirectory}
    {error : ProcError} (h : processStat directory.stat = .error error) :
    self.verify directory =
      if error.absent = true then .ok (some .missingProcess) else .error error := by
  rw [verify, h]

/-- A record whose values are read is compared with the identity. -/
theorem ForegroundIdentity.verify_read (self : ForegroundIdentity) {record : ProcessRecord}
    {owner : UInt32} {boot : BootIdentity}
    (h : processStat (record.directory owner boot).stat = .ok record.stat) :
    self.verify (record.directory owner boot) =
      .ok (if self.Names record owner boot then
          if record.state.exited = true then some .exitedProcess else none
        else some .identityMismatch) := by
  rw [verify, h]
  dsimp only
  by_cases hprocess : record.stat.processId ≠ self.processId ∨
      record.stat.startTicks ≠ self.startTicks
  · rw [if_pos hprocess, if_neg]
    rintro ⟨hid, hticks, -, -⟩
    rcases hprocess with hother | hother
    · exact hother hid.symm
    · exact hother hticks.symm
  rw [if_neg hprocess]
  rw [not_or, Classical.not_not, Classical.not_not] at hprocess
  show (if owner ≠ self.userId then _ else (Coterie.bootId (.ok boot.file)).bind _) = _
  by_cases howner : owner ≠ self.userId
  · rw [if_pos howner, if_neg]
    · rfl
    · rintro ⟨-, -, huser, -⟩
      exact howner huser.symm
  rw [if_neg howner, bootId_file]
  show (if boot.text ≠ self.bootId then _ else _) = _
  by_cases hboot : boot.text ≠ self.bootId
  · rw [if_pos hboot, if_neg]
    · rfl
    · rintro ⟨-, -, -, htext⟩
      exact hboot htext.symm
  rw [Classical.not_not] at howner hboot
  have hnames : self.Names record owner boot :=
    ⟨hprocess.1.symm, hprocess.2.symm, howner.symm, hboot.symm⟩
  rw [if_neg (not_not_intro hboot), if_pos hnames]
  rfl

/-- The process that an identity is compared with is taken for the one it was recorded of. -/
def ForegroundIdentity.Takes (self : ForegroundIdentity) (directory : ProcessDirectory) : Prop :=
  self.verify directory = .ok none ∨ self.verify directory = .ok (some .exitedProcess)

/-- No other process is taken for the recorded one, whether its record is read or not. -/
theorem ForegroundIdentity.names_of_takes {self : ForegroundIdentity} {record : ProcessRecord}
    {owner : UInt32} {boot : BootIdentity} (h : self.Takes (record.directory owner boot)) :
    self.Names record owner boot := by
  by_contra hother
  cases hread : processStat (record.directory owner boot).stat with
  | error error =>
      rw [Takes, self.verify_unread hread] at h
      split at h
      · rcases h with h | h <;> cases h
      · rcases h with h | h <;> cases h
  | ok found =>
      obtain ⟨rfl, -⟩ := record.processStat_line.mp hread
      rw [Takes, self.verify_read hread, if_neg hother] at h
      rcases h with h | h <;> cases h

/-- The record is read back: reading gives the values that it was written for, an identity of the
    process is verified while the process lives, and no other process is taken for it. -/
structure ProcessRecord.ReadBack (record : ProcessRecord) (owner : UInt32) (boot : BootIdentity) :
    Prop where
  values : processStat (.ok record.line) = .ok record.stat
  live : ∀ identity : ForegroundIdentity, identity.Names record owner boot →
    record.state.exited = false → identity.verify (record.directory owner boot) = .ok none
  own : ∀ identity : ForegroundIdentity,
    identity.Takes (record.directory owner boot) → identity.Names record owner boot

theorem ProcessRecord.readBack_iff (record : ProcessRecord) (owner : UInt32) (boot : BootIdentity) :
    record.ReadBack owner boot ↔ Utf8.Valid record.name ∧ record.line.length ≤ 8192 := by
  constructor
  · intro h
    exact (record.processStat_line.mp h.values).2
  · intro hread
    have hvalues : processStat (.ok record.line) = .ok record.stat :=
      record.processStat_line.mpr ⟨rfl, hread⟩
    refine ⟨hvalues, fun identity hnames hlive => ?_,
      fun _ htakes => ForegroundIdentity.names_of_takes htakes⟩
    rw [identity.verify_read hvalues, if_pos hnames, hlive]
    rfl

/-- A record is read back when its name is UTF-8 and the line is not too long.  Whatever the name
    is, no other process is taken for the recorded one. -/
theorem ProcessRecord.record_read_back (record : ProcessRecord) (owner : UInt32)
    (boot : BootIdentity) :
    (record.ReadBack owner boot ↔ Utf8.Valid record.name ∧ record.line.length ≤ 8192) ∧
      ∀ identity : ForegroundIdentity,
        identity.Takes (record.directory owner boot) → identity.Names record owner boot :=
  ⟨record.readBack_iff owner boot, fun _ htakes => ForegroundIdentity.names_of_takes htakes⟩

/-- A process whose name the kernel has cut inside of a character: fourteen letters and the first
    byte of a second. -/
def ProcessRecord.cutName : ProcessRecord where
  processId  := 4711
  name       := List.replicate 14 0x61 ++ [0xc3]
  state      := .sleeping
  parentId   := 4700
  earlier    := Vector.replicate 17 0
  startTicks := 123456
  later      := List.replicate 32 0

/-- The boot in which it runs. -/
def ProcessRecord.cutBoot : BootIdentity where
  text       := "7d1f4a52-0c3b-4e8e-9a6d-2b5c8f1e0a47".toList.map fun c => UInt8.ofNat c.toNat
  wellFormed := by decide

/-- Its record is not read. -/
theorem ProcessRecord.cutName_not_read :
    ¬ ProcessRecord.cutName.ReadBack 1000 ProcessRecord.cutBoot := by
  intro h
  have hname : Utf8.Valid (List.replicate 14 0x61 ++ [0xc3]) :=
    ((ProcessRecord.cutName.readBack_iff 1000 ProcessRecord.cutBoot).mp h).1
  have hlast : Utf8.Valid [0xc3] := hname.of_append (Utf8.Valid.ascii (by decide))
  unfold Utf8.Valid at hlast
  rw [Utf8.check_incomplete (by simp) (by decide)] at hlast
  cases hlast

end Coterie
