/-
  Coterie.Providers.Transcript

  Pages of a transcript (`transcript.rs`) and the logs request over them (`supervisor.rs`).  A page
  starts at a cursor, or near the end of the file when its tail is read; it has as many bytes as the
  limit allows and up to three more while it ends inside of a character.

  `TranscriptPages` is what pages are for: they tile the file, keep characters whole and decode to
  what the file decodes to.  `transcript_pages_iff` says for which contents they do.
-/

import Coterie.Base.Except
import Coterie.Base.Utf8

namespace Coterie

open Utf8 (isContinuation check held lossy Splits Valid)

/-! ## Reading a page -/

inductive TranscriptError where
  | invalidInput (message : String)
  | notFound
deriving DecidableEq, Repr

structure TranscriptPage where
  bytes : List UInt8
  startCursor : Nat
  totalBytes : Nat
  partialHead : Bool
  nextCursor : Nat
  eof : Bool
  incompleteTail : Bool
deriving DecidableEq, Repr

/-- The byte that ends a frame. -/
def newline : UInt8 := 0x0a

/-- The place of the last byte that continues no character, or 0. -/
def tailStart (bytes : List UInt8) : Nat :=
  match bytes.reverse.findIdx? (fun byte => !isContinuation byte) with
  | some back => bytes.length - 1 - back
  | none => 0

/-- The bytes end inside of a character. -/
def isBisected (bytes : List UInt8) : Bool :=
  (check 0 (bytes.drop (tailStart bytes))).any (·.errorLen.isNone)

/-- Read one more byte, some times, while the bytes that were read end inside of a character. -/
def extend (content : List UInt8) (after : Nat) : Nat → List UInt8 → List UInt8
  | 0, bytes => bytes
  | more + 1, bytes =>
      if isBisected bytes = true ∧ after + bytes.length < content.length then
        extend content after more (bytes ++ content[after + bytes.length]?.toList)
      else bytes

/-- Step back, some times, from a byte that continues a character. -/
def alignTail (content : List UInt8) : Nat → Nat → Nat
  | 0, after => after
  | more + 1, after =>
      if after = 0 ∨ after = content.length then after
      else if content[after]?.any isContinuation then alignTail content more (after - 1)
      else after

/-- The page from `after` on that starts as `window` bytes. -/
def pageFrom (content : List UInt8) (after window : Nat) : TranscriptPage :=
  let bytes := extend content after 3 ((content.drop after).take window)
  {
    bytes
    startCursor := after
    totalBytes := content.length
    partialHead := decide (0 < after) && content[after - 1]? != some newline
    nextCursor := after + bytes.length
    eof := after + bytes.length == content.length
    incompleteTail := content.getLast?.getD newline != newline
  }

/-- Read a page of a file that is there. -/
def readContent (content : List UInt8) (cursor limit : Nat) (tail : Bool) :
    Except TranscriptError TranscriptPage :=
  let after := if tail then alignTail content 3 (content.length - limit) else cursor
  if content.length < after then
    .error (.invalidInput
      "transcript cursor exceeds file length; the transcript may have been truncated")
  else
    .ok (pageFrom content after
      (if tail then content.length - after else min limit (content.length - after)))

/-- The page of a transcript that is not there yet. -/
def emptyPage : TranscriptPage where
  bytes := []
  startCursor := 0
  totalBytes := 0
  partialHead := false
  nextCursor := 0
  eof := true
  incompleteTail := false

def readPage (file : Option (List UInt8)) (after limit : Nat) (tail : Bool) :
    Except TranscriptError TranscriptPage :=
  if ¬ (1 ≤ limit ∧ limit ≤ 65536) then
    .error (.invalidInput "transcript limit must be between 1 and 65536")
  else
    match file with
    | none => if after = 0 then .ok emptyPage else .error .notFound
    | some content => readContent content after limit tail

/-- Seeks directly to recent bytes while retaining the original transcript. -/
def readTail (file : Option (List UInt8)) (limit : Nat) : Except TranscriptError TranscriptPage :=
  readPage file 0 limit true

/-! ## The logs request -/

structure LogsPage where
  transcript : List UInt8
  startCursor : Nat
  totalBytes : Nat
  partialHead : Bool
  nextCursor : Nat
  eof : Bool
  terminal : Bool
  incompleteTail : Bool
deriving DecidableEq, Repr

/-- While the session runs, a character that its output ends inside of is left for a later page. -/
def withholdUnfinished (terminal : Bool) (page : TranscriptPage) : TranscriptPage :=
  match check 0 page.bytes with
  | none => page
  | some error =>
      if terminal = false ∧ error.errorLen = none then
        let bytes := page.bytes.take error.validUpTo
        { page with
          bytes
          nextCursor := page.startCursor + bytes.length
          eof := page.startCursor + bytes.length == page.totalBytes }
      else page

/-- What the logs request returns about the transcript of the session. -/
def logs (terminal : Bool) (file : Option (List UInt8)) (after limit : Nat) (tail : Bool) :
    Except TranscriptError LogsPage :=
  if tail = true ∧ after ≠ 0 then
    .error (.invalidInput "tail cannot be combined with a nonzero transcript cursor")
  else
    match if tail then readTail file limit else readPage file after limit false with
    | .error error => .error error
    | .ok read =>
        let page := withholdUnfinished terminal read
        .ok {
          transcript := lossy page.bytes
          startCursor := page.startCursor
          totalBytes := page.totalBytes
          partialHead := page.partialHead
          nextCursor := page.nextCursor
          eof := page.eof
          terminal
          incompleteTail := page.incompleteTail
        }

/-! ## Where a page ends -/

/-- The last byte that continues no character, and what comes before and after it. -/
theorem tailStart_split (bytes : List UInt8) :
    (tailStart bytes = 0 ∧ ∀ byte ∈ bytes, isContinuation byte = true) ∨
      ∃ front first rest, bytes = front ++ first :: rest ∧ tailStart bytes = front.length ∧
        isContinuation first = false ∧ ∀ byte ∈ rest, isContinuation byte = true := by
  unfold tailStart
  cases hfind : bytes.reverse.findIdx? (fun byte => !isContinuation byte) with
  | none =>
      refine .inl ⟨rfl, fun byte hbyte => ?_⟩
      have hno := List.findIdx?_eq_none_iff.mp hfind byte (List.mem_reverse.mpr hbyte)
      simpa using hno
  | some back =>
      obtain ⟨hback, hfirst, hrest⟩ := List.findIdx?_eq_some_iff_getElem.mp hfind
      rw [List.length_reverse] at hback
      rw [List.getElem_reverse, Bool.not_eq_true'] at hfirst
      have hplace : bytes.length - 1 - back < bytes.length := by omega
      refine .inr ⟨bytes.take (bytes.length - 1 - back), bytes[bytes.length - 1 - back],
        bytes.drop (bytes.length - 1 - back + 1), ?_, ?_, hfirst, ?_⟩
      · rw [← List.drop_eq_getElem_cons hplace, List.take_append_drop]
      · show bytes.length - 1 - back = (bytes.take (bytes.length - 1 - back)).length
        rw [List.length_take]
        omega
      · intro byte hbyte
        obtain ⟨k, hk, rfl⟩ := List.mem_iff_getElem.mp hbyte
        rw [List.length_drop] at hk
        have hlater := hrest (back - 1 - k) (by omega)
        rw [List.getElem_reverse, Bool.not_eq_true', Bool.not_eq_false] at hlater
        rw [List.getElem_drop]
        convert hlater using 3
        omega

/-- The look at the end of the bytes finds out whether they end inside of a character. -/
theorem isBisected_iff (bytes : List UInt8) : isBisected bytes = true ↔ held bytes ≠ [] := by
  unfold isBisected
  rcases tailStart_split bytes with ⟨hstart, hall⟩ | ⟨front, first, rest, rfl, hstart, hfirst, hall⟩
  · rw [hstart, List.drop_zero, Utf8.held_continuations hall]
    cases bytes with
    | nil => simp
    | cons byte bytes =>
        rw [Utf8.check_invalid (Utf8.decision_continuation (hall byte List.mem_cons_self) bytes)]
        simp
  · rw [hstart, List.drop_left, Utf8.held_append_cons front hfirst]
    -- what the character does not use are continuation bytes
    have hrest : ∀ count, held ((first :: rest).drop (1 + count)) = [] := by
      intro count
      rw [Nat.add_comm, List.drop_succ_cons]
      exact Utf8.held_continuations fun byte hbyte => hall byte (List.mem_of_mem_drop hbyte)
    cases hdecision : Utf8.decision (first :: rest) with
    | incomplete =>
        rw [Utf8.check_incomplete (by simp) hdecision, Utf8.held_incomplete hdecision]
        simp
    | invalid length =>
        obtain ⟨count, rfl, -⟩ := Utf8.decision_length (by rw [hdecision]; rfl)
        rw [Utf8.check_invalid hdecision, Utf8.held_decided (by simp) (by rw [hdecision]; simp)]
        dsimp only [Utf8.scanner]
        rw [hdecision]
        simp [hrest count]
    | char length =>
        obtain ⟨count, rfl, -⟩ := Utf8.decision_length (by rw [hdecision]; rfl)
        rw [Utf8.check_char hdecision, Utf8.held_decided (by simp) (by rw [hdecision]; simp)]
        dsimp only [Utf8.scanner]
        rw [hdecision]
        cases hdrop : (first :: rest).drop (1 + count) with
        | nil => simp
        | cons byte later =>
            have hbyte : byte ∈ rest := by
              rw [Nat.add_comm, List.drop_succ_cons] at hdrop
              exact List.mem_of_mem_drop (hdrop ▸ List.mem_cons_self)
            rw [Utf8.check_invalid (Utf8.decision_continuation (hall byte hbyte) later),
              ← hdrop, hrest count]
            simp

/-- Where the bytes that are read from a place of `rest` end: they start as `window` bytes, every
    end before the last one lies inside of a character, and so does the last one only at the end of
    the file or after `more` added bytes. -/
structure PageEnd (rest : List UInt8) (window more added : Nat) : Prop where
  added_le : added ≤ more
  within : window + added ≤ rest.length
  inside : ∀ earlier < added, held (rest.take (window + earlier)) ≠ []
  stops : added = more ∨ window + added = rest.length ∨ held (rest.take (window + added)) = []

theorem extend_spec (content : List UInt8) (after more : Nat) {window : Nat}
    (hwindow : window ≤ (content.drop after).length) :
    ∃ added, PageEnd (content.drop after) window more added ∧
      extend content after more ((content.drop after).take window) =
        (content.drop after).take (window + added) := by
  induction more generalizing window with
  | zero =>
      refine ⟨0, ⟨Nat.le_refl _, hwindow, ?_, .inl rfl⟩, rfl⟩
      intro earlier hearlier
      exact absurd hearlier (Nat.not_lt_zero _)
  | succ more ih =>
      have hlength : ((content.drop after).take window).length = window := by
        rw [List.length_take, Nat.min_eq_left hwindow]
      rw [extend, hlength]
      rw [List.length_drop] at hwindow
      by_cases hgo : isBisected ((content.drop after).take window) = true ∧
          after + window < content.length
      · obtain ⟨hinside, hlt⟩ := hgo
        rw [if_pos ⟨hinside, hlt⟩]
        have hnext : (content.drop after).take window ++ content[after + window]?.toList =
            (content.drop after).take (window + 1) := by
          rw [List.take_add_one, List.getElem?_drop]
        have hlonger : window + 1 ≤ (content.drop after).length := by
          rw [List.length_drop]
          omega
        obtain ⟨added, hend, hread⟩ := ih hlonger
        refine ⟨added + 1, ⟨Nat.succ_le_succ hend.added_le, ?_, ?_, ?_⟩, ?_⟩
        · have hwithin := hend.within
          omega
        · intro earlier hearlier
          cases earlier with
          | zero => exact (isBisected_iff _).mp hinside
          | succ earlier =>
              rw [show window + (earlier + 1) = window + 1 + earlier by omega]
              exact hend.inside earlier (Nat.lt_of_succ_lt_succ hearlier)
        · rw [show window + (added + 1) = window + 1 + added by omega]
          exact hend.stops.imp (congrArg Nat.succ) id
        · rw [hnext, hread, show window + (added + 1) = window + 1 + added by omega]
      · rw [if_neg hgo]
        refine ⟨0, ⟨Nat.zero_le _, by rw [List.length_drop]; omega, ?_, .inr ?_⟩, rfl⟩
        · intro earlier hearlier
          exact absurd hearlier (Nat.not_lt_zero _)
        · rw [not_and_or] at hgo
          rcases hgo with hclosed | hlast
          · rw [isBisected_iff, not_not] at hclosed
            exact .inr hclosed
          · rw [List.length_drop]
            exact .inl (by omega)

/-- A page of `content` that was read from a cursor. -/
structure PageAt (content : List UInt8) (after window added : Nat) (page : TranscriptPage) :
    Prop where
  start : page.startCursor = after
  total : page.totalBytes = content.length
  bytes : page.bytes = (content.drop after).take (window + added)
  next : page.nextCursor = after + (window + added)
  eof : page.eof = true ↔ page.nextCursor = content.length
  last : PageEnd (content.drop after) window 3 added

theorem pageFrom_pageAt {content : List UInt8} {after window : Nat}
    (hwindow : window ≤ (content.drop after).length) :
    ∃ added, PageAt content after window added (pageFrom content after window) := by
  obtain ⟨added, hlast, hread⟩ := extend_spec content after 3 hwindow
  refine ⟨added, rfl, rfl, hread, ?_, beq_iff_eq, hlast⟩
  dsimp only [pageFrom]
  rw [hread, List.length_take, Nat.min_eq_left hlast.within]

/-- A permitted limit at a cursor within the file gives a page. -/
theorem readPage_ok {content : List UInt8} {after limit : Nat} (hlimit : 1 ≤ limit ∧ limit ≤ 65536)
    (hafter : after ≤ content.length) :
    ∃ page added, readPage (some content) after limit false = .ok page ∧
      PageAt content after (min limit (content.length - after)) added page := by
  have hwindow : min limit (content.length - after) ≤ (content.drop after).length := by
    rw [List.length_drop]
    exact Nat.min_le_right _ _
  obtain ⟨added, hpage⟩ := pageFrom_pageAt hwindow
  refine ⟨_, added, ?_, hpage⟩
  rw [readPage, if_neg (not_not.mpr hlimit)]
  simp only [readContent, Bool.false_eq_true, if_false]
  rw [if_neg (Nat.not_lt.mpr hafter)]

section PageAt

variable {content : List UInt8} {after window added : Nat} {page : TranscriptPage}

theorem PageAt.next_le (h : PageAt content after window added page)
    (hafter : after ≤ content.length) : page.nextCursor ≤ content.length := by
  have hwithin := h.last.within
  rw [List.length_drop] at hwithin
  rw [h.next]
  omega

/-- The bytes from the start of a page on are those of the page and those behind it. -/
theorem PageAt.split (h : PageAt content after window added page) :
    content.drop after = page.bytes ++ content.drop page.nextCursor := by
  rw [h.bytes, h.next, ← List.drop_drop, List.take_append_drop]

/-- The bytes up to the end of a page are those before the page and its own. -/
theorem PageAt.take_next (h : PageAt content after window added page) :
    content.take page.nextCursor = content.take after ++ page.bytes := by
  rw [h.next, List.take_add, h.bytes]

end PageAt

/-- A character of valid bytes is at most four bytes long, so that the page ends behind it. -/
theorem PageEnd.valid {rest : List UInt8} {window added : Nat} (h : PageEnd rest window 3 added)
    (hvalid : Valid rest) : Valid (rest.take (window + added)) := by
  have hsplit : Valid (rest.take (window + added) ++ rest.drop (window + added)) := by
    rw [List.take_append_drop]
    exact hvalid
  rcases h.stops with rfl | hlast | hclosed
  · -- the ends before lie inside of one character, which is over with the third added byte
    have hwithin := h.within
    have hinside : window < rest.length := by omega
    obtain ⟨start, length, hstart, hplace, hlength, hend, hbefore, hdecision⟩ :=
      hvalid.char_at hinside
    have hcharacter : Valid (rest.take (start + length)) := by
      rw [List.take_add]
      refine hbefore.append ?_
      exact Utf8.check_single hdecision (by omega) (by rw [List.length_drop]; omega) 0
    have hclosed : held (rest.take (start + length)) = [] := (Utf8.check_none hcharacter).2.2
    have hstartNe : start ≠ window := by
      rintro rfl
      exact h.inside 0 (by omega) (Utf8.check_none hbefore).2.2
    have hendNe : ¬ start + length < window + 3 := by
      intro hlt
      refine h.inside (start + length - window) (by omega) ?_
      rw [show window + (start + length - window) = start + length by omega]
      exact hclosed
    rw [show window + 3 = start + length by omega]
    exact hcharacter
  · rw [hlast, List.take_length]
    exact hvalid
  · exact hsplit.of_held hclosed

/-! ## Reading to the end -/

/-- Read pages with these limits, each from where the last one ends, up to the end of the file. -/
def readPages (file : Option (List UInt8)) : Nat → List Nat →
    Except TranscriptError (List TranscriptPage)
  | _, [] => .ok []
  | after, limit :: limits =>
      match readPage file after limit false with
      | .error error => .error error
      | .ok page =>
          if page.eof then .ok [page]
          else
            match readPages file page.nextCursor limits with
            | .error error => .error error
            | .ok pages => .ok (page :: pages)

/-- The limits a page may have. -/
def PageLimits (limits : List Nat) : Prop :=
  ∀ limit ∈ limits, 1 ≤ limit ∧ limit ≤ 65536

/-- The pages of `content` that are read from a cursor on with some limits. -/
inductive PagesFrom (content : List UInt8) : Nat → List Nat → List TranscriptPage → Prop where
  | done {after : Nat} : PagesFrom content after [] []
  | last {after limit added : Nat} {limits : List Nat} {page : TranscriptPage}
      (hpage : PageAt content after (min limit (content.length - after)) added page)
      (heof : page.eof = true) : PagesFrom content after (limit :: limits) [page]
  | next {after limit added : Nat} {limits : List Nat} {page : TranscriptPage}
      {pages : List TranscriptPage}
      (hpage : PageAt content after (min limit (content.length - after)) added page)
      (heof : page.eof = false) (hpages : PagesFrom content page.nextCursor limits pages) :
      PagesFrom content after (limit :: limits) (page :: pages)

theorem readPages_ok {content : List UInt8} {limits : List Nat} (hlimits : PageLimits limits)
    {after : Nat} (hafter : after ≤ content.length) :
    ∃ pages, readPages (some content) after limits = .ok pages ∧
      PagesFrom content after limits pages := by
  induction limits generalizing after with
  | nil => exact ⟨[], rfl, .done⟩
  | cons limit limits ih =>
      obtain ⟨page, added, hread, hpage⟩ := readPage_ok (hlimits limit List.mem_cons_self) hafter
      rw [readPages, hread]
      dsimp only
      cases heof : page.eof with
      | true => exact ⟨[page], rfl, .last hpage heof⟩
      | false =>
          obtain ⟨pages, hpages, hfrom⟩ :=
            ih (fun other hother => hlimits other (List.mem_cons_of_mem _ hother))
              (hpage.next_le hafter)
          rw [hpages]
          exact ⟨page :: pages, rfl, .next hpage heof hfrom⟩

/-- The pages end with the end of the file. -/
def ReachesEnd (pages : List TranscriptPage) : Prop :=
  ∃ page ∈ pages.getLast?, page.eof = true

/-- A page covers the bytes from a cursor to the one it continues with, and moves on before the end
    of the file. -/
structure TranscriptPage.Covers (page : TranscriptPage) (content : List UInt8) (after : Nat) :
    Prop where
  start : page.startCursor = after
  bytes : page.bytes = (content.drop after).take (page.nextCursor - after)
  length : after + page.bytes.length = page.nextCursor
  eof : page.eof = true ↔ page.nextCursor = content.length
  progress : page.eof = false → after < page.nextCursor

/-- Each page starts where the one before ends. -/
def Contiguous (content : List UInt8) : Nat → List TranscriptPage → Prop
  | _, [] => True
  | after, page :: pages => page.Covers content after ∧ Contiguous content page.nextCursor pages

section PagesFrom

variable {content : List UInt8} {after : Nat} {limits : List Nat} {pages : List TranscriptPage}

theorem PageAt.covers {limit added : Nat} {page : TranscriptPage} (hlimit : 1 ≤ limit)
    (hafter : after ≤ content.length)
    (h : PageAt content after (min limit (content.length - after)) added page) :
    page.Covers content after := by
  have hnext := h.next
  refine ⟨h.start, ?_, ?_, h.eof, ?_⟩
  · rw [h.bytes, hnext, Nat.add_sub_cancel_left]
  · rw [h.bytes, hnext, List.length_take, Nat.min_eq_left h.last.within]
  · intro heof
    have hne : page.nextCursor ≠ content.length := by
      intro hend
      rw [h.eof.mpr hend] at heof
      cases heof
    have hle := h.next_le hafter
    omega

theorem PagesFrom.contiguous (h : PagesFrom content after limits pages)
    (hlimits : PageLimits limits) (hafter : after ≤ content.length) :
    Contiguous content after pages := by
  induction h with
  | done => trivial
  | last hpage heof =>
      exact ⟨hpage.covers (hlimits _ List.mem_cons_self).1 hafter, trivial⟩
  | next hpage heof hpages ih =>
      refine ⟨hpage.covers (hlimits _ List.mem_cons_self).1 hafter, ?_⟩
      exact ih (fun other hother => hlimits other (List.mem_cons_of_mem _ hother))
        (hpage.next_le hafter)

/-- Pages move on, so that as many limits as there are bytes left are enough for all of them. -/
theorem PagesFrom.reachesEnd (h : PagesFrom content after limits pages)
    (hlimits : PageLimits limits) (hafter : after ≤ content.length)
    (hlong : content.length - after < limits.length) : ReachesEnd pages := by
  induction h with
  | done => exact absurd hlong (Nat.not_lt_zero _)
  | last hpage heof => exact ⟨_, rfl, heof⟩
  | @next after limit added limits page pages hpage heof hpages ih =>
      have hprogress := (hpage.covers (hlimits _ List.mem_cons_self).1 hafter).progress heof
      have hle := hpage.next_le hafter
      rw [List.length_cons] at hlong
      obtain ⟨last, hlast, hend⟩ :=
        ih (fun other hother => hlimits other (List.mem_cons_of_mem _ hother)) hle (by omega)
      refine ⟨last, ?_, hend⟩
      rw [List.getLast?_cons, Option.mem_def.mp hlast]
      rfl

/-- What comes last in a page followed by others comes last in the others. -/
theorem ReachesEnd.tail {page : TranscriptPage} (h : ReachesEnd (page :: pages))
    (heof : page.eof = false) : ReachesEnd pages := by
  obtain ⟨last, hlast, hend⟩ := h
  rw [List.getLast?_cons] at hlast
  cases hpages : pages.getLast? with
  | none =>
      rw [hpages] at hlast
      cases hlast
      rw [show page.eof = true from hend] at heof
      cases heof
  | some found =>
      rw [hpages] at hlast
      cases hlast
      exact ⟨found, hpages, hend⟩

theorem PagesFrom.flatten (h : PagesFrom content after limits pages) (hend : ReachesEnd pages) :
    (pages.map (·.bytes)).flatten = content.drop after := by
  induction h with
  | done =>
      obtain ⟨last, hlast, -⟩ := hend
      cases hlast
  | last hpage heof =>
      rw [hpage.split, hpage.eof.mp heof, List.drop_length]
      simp
  | next hpage heof hpages ih =>
      rw [List.map_cons, List.flatten_cons, ih (hend.tail heof), ← hpage.split]

/-- Every page of a valid file is valid. -/
theorem PagesFrom.valid (h : PagesFrom content after limits pages) (hvalid : Valid content)
    (hafter : Valid (content.take after)) : ∀ page ∈ pages, Valid page.bytes := by
  have hrest : ∀ {after}, Valid (content.take after) → Valid (content.drop after) := by
    intro after hbefore
    refine Valid.of_append ?_ hbefore
    rw [List.take_append_drop]
    exact hvalid
  induction h with
  | done =>
      intro page hpage
      cases hpage
  | last hpage heof =>
      intro page hmem
      rw [List.mem_singleton.mp hmem, hpage.bytes]
      exact hpage.last.valid (hrest hafter)
  | next hpage heof hpages ih =>
      have hbytes := hpage.last.valid (hrest hafter)
      rw [← hpage.bytes] at hbytes
      intro other hother
      rcases List.mem_cons.mp hother with rfl | hlater
      · exact hbytes
      · refine ih ?_ other hlater
        rw [hpage.take_next]
        exact hafter.append hbytes

end PagesFrom

/-! ## Decoding the pages -/

/-- A page whose limit ends at this place still ends inside of a character, which the file completes
    or continues, after the three bytes that it may read more. -/
def Overrun (content : List UInt8) (place : Nat) : Prop :=
  (∀ earlier < 3, held (content.take (place + earlier)) ≠ []) ∧
    Splits (content.take (place + 3)) (content.drop (place + 3))

instance (content : List UInt8) (place : Nat) : Decidable (Overrun content place) :=
  inferInstanceAs (Decidable (_ ∧ _))

section Decoding

variable {content : List UInt8} {after : Nat}

/-- Behind a cut that splits no character, what a text ends with does not depend on what comes before
    the cut. -/
theorem held_behind (hcut : ¬ Splits (content.take after) (content.drop after))
    (hafter : after < content.length) {count : Nat} (hcount : 0 < count) :
    held (content.take (after + count)) = held ((content.drop after).take count) := by
  rw [List.take_add]
  refine Utf8.held_cut (fun hsplits => hcut (hsplits.mono (List.take_prefix _ _))) ?_
  rw [Ne, List.take_eq_nil_iff, List.drop_eq_nil_iff]
  omega

theorem splits_behind (hcut : ¬ Splits (content.take after) (content.drop after))
    (hafter : after < content.length) {count : Nat} (hcount : 0 < count) :
    Splits (content.take (after + count)) (content.drop (after + count)) ↔
      Splits ((content.drop after).take count) ((content.drop after).drop count) := by
  unfold Splits
  rw [held_behind hcut hafter hcount, List.drop_drop]

theorem overrun_behind (hcut : ¬ Splits (content.take after) (content.drop after))
    (hafter : after < content.length) {place : Nat} (hplace : 0 < place) :
    Overrun content (after + place) ↔ Overrun (content.drop after) place := by
  unfold Overrun
  rw [Nat.add_assoc after place 3, splits_behind hcut hafter (by omega)]
  refine and_congr_left fun _ => forall₂_congr fun earlier _ => ?_
  rw [Nat.add_assoc, held_behind hcut hafter (by omega)]

/-- Without an overrun, a page ends where no character is split. -/
theorem PageEnd.not_splits {rest : List UInt8} {window added : Nat}
    (h : PageEnd rest window 3 added) (hnone : ¬ Overrun rest window) :
    ¬ Splits (rest.take (window + added)) (rest.drop (window + added)) := by
  intro hsplits
  rcases h.stops with rfl | hlast | hclosed
  · exact hnone ⟨h.inside, hsplits⟩
  · refine hsplits.2.1 ?_
    rw [hlast, List.drop_length]
  · exact hsplits.1 hclosed

/-- The characters of a valid file are too short for an overrun. -/
theorem not_overrun_of_valid (hvalid : Valid content) (place : Nat) : ¬ Overrun content place := by
  rintro ⟨hinside, hsplits⟩
  have hwithin : place + 3 ≤ content.length := by
    have hne := hsplits.2.1
    rw [Ne, List.drop_eq_nil_iff] at hne
    omega
  have hend : PageEnd content place 3 3 := ⟨Nat.le_refl _, hwithin, hinside, .inl rfl⟩
  exact hsplits.1 (Utf8.check_none (hend.valid hvalid)).2.2

/-- Pages of a file without an overrun decode to what the file decodes to. -/
theorem PagesFrom.lossless {limits : List Nat} {pages : List TranscriptPage}
    (h : PagesFrom content after limits pages) (hlimits : PageLimits limits)
    (hnone : ¬ ∃ place, Overrun content place) (hafter : after ≤ content.length)
    (hcut : ¬ Splits (content.take after) (content.drop after)) (hend : ReachesEnd pages) :
    (pages.map fun page => lossy page.bytes).flatten = lossy (content.drop after) := by
  induction h with
  | done =>
      obtain ⟨last, hlast, -⟩ := hend
      cases hlast
  | last hpage heof =>
      rw [hpage.split, hpage.eof.mp heof, List.drop_length]
      simp
  | @next after limit added limits page pages hpage heof hpages ih =>
      have hlimit := hlimits limit List.mem_cons_self
      have hprogress := (hpage.covers hlimit.1 hafter).progress heof
      have hle := hpage.next_le hafter
      have hwindow : 0 < min limit (content.length - after) := by omega
      have hpageCut : ¬ Splits page.bytes (content.drop page.nextCursor) := by
        rw [hpage.bytes, hpage.next, ← List.drop_drop]
        refine hpage.last.not_splits fun hoverrun => ?_
        have hplace := (overrun_behind hcut (Nat.lt_of_lt_of_le hprogress hle) hwindow).mpr hoverrun
        exact hnone ⟨_, hplace⟩
      have hnextCut : ¬ Splits (content.take page.nextCursor) (content.drop page.nextCursor) := by
        rw [hpage.next, splits_behind hcut (by omega) (by omega), List.drop_drop, ← hpage.next,
          ← hpage.bytes]
        exact hpageCut
      rw [List.map_cons, List.flatten_cons,
        ih (fun other hother => hlimits other (List.mem_cons_of_mem _ hother)) hle hnextCut
          (hend.tail heof),
        hpage.split, Utf8.lossy_cut hpageCut]

/-- Whatever the limits, the pages from a cursor on decode to what the file decodes to there. -/
def LosslessFrom (content : List UInt8) (after : Nat) : Prop :=
  ∀ limits pages, PageLimits limits → readPages (some content) after limits = .ok pages →
    ReachesEnd pages →
    (pages.map fun page => lossy page.bytes).flatten = lossy (content.drop after)

/-- Pages have at least as many characters as the file. -/
theorem PagesFrom.chars_le {limits : List Nat} {pages : List TranscriptPage}
    (h : PagesFrom content after limits pages) (hend : ReachesEnd pages) :
    Utf8.chars (lossy (content.drop after)) ≤
      Utf8.chars (pages.map fun page => lossy page.bytes).flatten := by
  induction h with
  | done =>
      obtain ⟨last, hlast, -⟩ := hend
      cases hlast
  | last hpage heof =>
      rw [hpage.split, hpage.eof.mp heof, List.drop_length]
      simp
  | @next after limit added limits page pages hpage heof hpages ih =>
      have hpieces := Utf8.chars_lossy_le page.bytes (content.drop page.nextCursor)
      rw [List.map_cons, List.flatten_cons, Utf8.chars_append, hpage.split]
      exact hpieces.trans (Nat.add_le_add_left (ih (hend.tail heof)) _)

/-- Where every reading is lossless, so it is behind a page, and the page splits no character. -/
theorem LosslessFrom.next {limit added : Nat} {page : TranscriptPage}
    (h : LosslessFrom content after) (hlimit : 1 ≤ limit ∧ limit ≤ 65536)
    (hafter : after ≤ content.length)
    (hread : readPage (some content) after limit false = .ok page)
    (hpage : PageAt content after (min limit (content.length - after)) added page)
    (heof : page.eof = false) :
    ¬ Splits page.bytes (content.drop page.nextCursor) ∧
      LosslessFrom content page.nextCursor := by
  have hrest : ∀ limits pages, PageLimits limits →
      readPages (some content) page.nextCursor limits = .ok pages → ReachesEnd pages →
      lossy page.bytes ++ (pages.map fun page => lossy page.bytes).flatten =
        lossy (page.bytes ++ content.drop page.nextCursor) := by
    intro limits pages hlimits hpages hend
    rw [← hpage.split]
    refine h (limit :: limits) (page :: pages) ?_ ?_ ?_
    · intro other hother
      rcases List.mem_cons.mp hother with rfl | hlater
      · exact hlimit
      · exact hlimits other hlater
    · rw [readPages, hread]
      dsimp only
      rw [heof, hpages]
      rfl
    · obtain ⟨last, hlast, hstop⟩ := hend
      refine ⟨last, ?_, hstop⟩
      rw [List.getLast?_cons, Option.mem_def.mp hlast]
      rfl
  have hcut : ¬ Splits page.bytes (content.drop page.nextCursor) := by
    intro hsplits
    -- one byte at a time is enough to get to the end
    have hones : PageLimits (List.replicate (content.length + 1) 1) := by
      intro limit hmem
      rw [List.eq_of_mem_replicate hmem]
      decide
    obtain ⟨pages, hpages, hfrom⟩ := readPages_ok hones (hpage.next_le hafter)
    have hend : ReachesEnd pages := by
      refine hfrom.reachesEnd hones (hpage.next_le hafter) ?_
      rw [List.length_replicate]
      omega
    have hsame := congrArg Utf8.chars (hrest _ pages hones hpages hend)
    rw [Utf8.chars_append] at hsame
    have hfewer := Utf8.chars_lossy_lt hsplits
    have hmore := hfrom.chars_le hend
    omega
  refine ⟨hcut, fun limits pages hlimits hpages hend => ?_⟩
  have hsame := hrest limits pages hlimits hpages hend
  rw [Utf8.lossy_cut hcut] at hsame
  exact List.append_cancel_left hsame

/-- An overrun can be hit: the pages before it are as long as they may be, and the last one of them
    ends where the next one ends at the overrun. -/
theorem LosslessFrom.not_overrun (h : LosslessFrom content after)
    (hcut : ¬ Splits (content.take after) (content.drop after)) {place : Nat}
    (hplace : after < place) : ¬ Overrun content place := by
  intro hoverrun
  have hlt : place + 3 < content.length := by
    have hne := hoverrun.2.2.1
    rw [Ne, List.drop_eq_nil_iff] at hne
    omega
  induction hn : place - after using Nat.strongRecOn generalizing after with
  | ind n ih =>
      obtain ⟨limit, hlimit, hnear⟩ : ∃ limit, (1 ≤ limit ∧ limit ≤ 65536) ∧
          (after + limit = place ∨ after + limit + 3 < place) := by
        by_cases hnear : place - after ≤ 65536
        · exact ⟨place - after, by omega, .inl (by omega)⟩
        · exact ⟨65000, by omega, .inr (by omega)⟩
      have hafter : after ≤ content.length := by omega
      obtain ⟨page, added, hread, hpage⟩ := readPage_ok hlimit hafter
      have hwindow : min limit (content.length - after) = limit := by omega
      have hadded := hpage.last.added_le
      have heof : page.eof = false := by
        rw [Bool.eq_false_iff, Ne, hpage.eof, hpage.next, hwindow]
        omega
      obtain ⟨hpageCut, hnext⟩ := h.next hlimit hafter hread hpage heof
      rw [hpage.bytes, hpage.next, ← List.drop_drop, hwindow] at hpageCut
      rw [hpage.next, hwindow] at hnext
      rcases hnear with rfl | hbefore
      · -- the page ends at the overrun, and reads three bytes more
        rw [overrun_behind hcut (by omega) (by omega)] at hoverrun
        have hwindowEnd := hpage.last
        rw [hwindow] at hwindowEnd
        have hthree : added = 3 := by
          rcases hwindowEnd.stops with hall | hlast | hclosed
          · exact hall
          · rw [List.length_drop] at hlast
            omega
          · by_contra hfew
            exact hoverrun.1 added (by omega) hclosed
        rw [hthree] at hpageCut
        exact hpageCut hoverrun.2
      · refine ih _ ?_ hnext ?_ (by omega) rfl
        · omega
        · rw [splits_behind hcut (by omega) (by omega)]
          exact hpageCut

end Decoding

/-! ## The tail of a file -/

/-- Stepping back stops at the first byte of the character. -/
theorem alignTail_eq {content : List UInt8} {start more place : Nat} (hstart : start ≤ place)
    (hnear : place ≤ start + more) (hplace : place < content.length)
    (hfirst : content[start]?.any isContinuation = false)
    (hrest : ∀ between, start < between → between ≤ place →
      content[between]?.any isContinuation = true) :
    alignTail content more place = start := by
  induction more generalizing place with
  | zero => exact Nat.le_antisymm hnear hstart
  | succ more ih =>
      rw [alignTail]
      rcases Nat.eq_or_lt_of_le hstart with rfl | hlater
      · rw [hfirst]
        simp
      · rw [if_neg (by omega), if_pos (hrest place hlater (Nat.le_refl _))]
        refine ih (by omega) (by omega) (by omega) fun between hlow hhigh => ?_
        exact hrest between hlow (by omega)

theorem alignTail_le (content : List UInt8) (more place : Nat) :
    alignTail content more place ≤ place := by
  induction more generalizing place with
  | zero => exact Nat.le_refl _
  | succ more ih =>
      rw [alignTail]
      split
      · exact Nat.le_refl _
      · split
        · exact (ih (place - 1)).trans (Nat.sub_le _ _)
        · exact Nat.le_refl _

/-- In valid bytes, stepping back three times at most finds the first byte of a character. -/
theorem alignTail_valid {content : List UInt8} (hvalid : Valid content) {place : Nat}
    (hplace : place < content.length) : Valid (content.take (alignTail content 3 place)) := by
  obtain ⟨start, length, hstart, hend, hlength, hwithin, hbefore, hdecision⟩ :=
    hvalid.char_at hplace
  have hfirstLt : start < content.length := by omega
  rw [List.drop_eq_getElem_cons hfirstLt] at hdecision
  obtain ⟨count, rfl, -, hall⟩ := Utf8.decision_length (by rw [hdecision]; rfl)
  have halign : alignTail content 3 place = start := by
    refine alignTail_eq hstart (by omega) hplace ?_ ?_
    · rw [List.getElem?_eq_getElem hfirstLt]
      exact (Utf8.decision_char hdecision).1
    · intro between hlow hhigh
      have hbetween : between < content.length := by omega
      rw [List.getElem?_eq_getElem hbetween]
      refine hall _ (List.mem_take_iff_getElem.mpr ⟨between - (start + 1), ?_, ?_⟩)
      · rw [List.length_drop]
        omega
      · rw [List.getElem_drop]
        congr 1
        omega
  rw [halign]
  exact hbefore

/-- A tail page has the bytes from where it starts to the end of the file. -/
theorem readTail_ok (content : List UInt8) {limit : Nat} (hlimit : 1 ≤ limit ∧ limit ≤ 65536) :
    ∃ page, readTail (some content) limit = .ok page ∧
      page.bytes = content.drop page.startCursor ∧ page.nextCursor = content.length ∧
      page.eof = true ∧
      page.startCursor = alignTail content 3 (content.length - limit) := by
  have hstart : alignTail content 3 (content.length - limit) ≤ content.length :=
    (alignTail_le content 3 _).trans (Nat.sub_le _ _)
  have hread : readTail (some content) limit =
      .ok (pageFrom content (alignTail content 3 (content.length - limit))
        (content.length - alignTail content 3 (content.length - limit))) := by
    rw [readTail, readPage, if_neg (not_not.mpr hlimit)]
    simp only [readContent, if_true]
    rw [if_neg (Nat.not_lt.mpr hstart)]
  have hwindow : content.length - alignTail content 3 (content.length - limit) ≤
      (content.drop (alignTail content 3 (content.length - limit))).length := by
    rw [List.length_drop]
  obtain ⟨added, hpage⟩ := pageFrom_pageAt hwindow
  have hwithin := hpage.last.within
  rw [List.length_drop] at hwithin
  refine ⟨_, hread, ?_, ?_, ?_, hpage.start⟩
  · rw [hpage.start, hpage.bytes, List.take_of_length_le]
    rw [List.length_drop]
    omega
  · rw [hpage.next]
    omega
  · rw [hpage.eof, hpage.next]
    omega

/-! ## Following a transcript -/

/-- A logs request of a reader that follows the transcript: the file and whether the session is over
    when it is served. -/
structure LogsRequest where
  file : Option (List UInt8)
  terminal : Bool
  limit : Nat

/-- The file of these requests grows up to `content`, which it is once the session is over. -/
def GrowsTo (content : List UInt8) : List UInt8 → List LogsRequest → Prop
  | _, [] => True
  | seen, request :: later =>
      seen <+: request.file.getD [] ∧ request.file.getD [] <+: content ∧
        (request.terminal = true → request.file.getD [] = content) ∧
        GrowsTo content (request.file.getD []) later

/-- Serve the requests, each from the cursor that the one before returned. -/
def followLogs : Nat → List LogsRequest → Except TranscriptError (List LogsPage)
  | _, [] => .ok []
  | after, request :: later =>
      match logs request.terminal request.file after request.limit false with
      | .error error => .error error
      | .ok page =>
          match followLogs page.nextCursor later with
          | .error error => .error error
          | .ok pages => .ok (page :: pages)

/-- A transcript that is not there yet reads like an empty one. -/
theorem readPage_file_ok {file : Option (List UInt8)} {after limit : Nat}
    (hlimit : 1 ≤ limit ∧ limit ≤ 65536) (hafter : after ≤ (file.getD []).length) :
    ∃ page added, readPage file after limit false = .ok page ∧
      PageAt (file.getD []) after (min limit ((file.getD []).length - after)) added page := by
  cases file with
  | some content => exact readPage_ok hlimit hafter
  | none =>
      have hzero : after = 0 := Nat.le_zero.mp hafter
      subst hzero
      refine ⟨emptyPage, 0, ?_, ?_⟩
      · rw [readPage, if_neg (not_not.mpr hlimit)]
        rfl
      · have hwindow : min limit (([] : List UInt8).length - 0) = 0 := Nat.min_zero limit
        rw [Option.getD_none, hwindow]
        refine ⟨rfl, rfl, rfl, rfl, by simp [emptyPage], ⟨by omega, Nat.le_refl _, ?_, ?_⟩⟩
        · intro earlier hearlier
          exact absurd hearlier (Nat.not_lt_zero _)
        · exact .inr (.inl rfl)

theorem withholdUnfinished_startCursor (terminal : Bool) (page : TranscriptPage) :
    (withholdUnfinished terminal page).startCursor = page.startCursor := by
  unfold withholdUnfinished
  split
  · rfl
  · split
    · rfl
    · rfl

/-- What is left of a page that ends inside of a character: the valid bytes before it. -/
theorem withholdUnfinished_spec {terminal : Bool} {page : TranscriptPage} {rest : List UInt8}
    (hvalid : Valid (page.bytes ++ rest)) (hterminal : terminal = true → Valid page.bytes)
    (hnext : page.nextCursor = page.startCursor + page.bytes.length)
    (heof : page.eof = true ↔ page.nextCursor = page.totalBytes) :
    ∃ count ≤ page.bytes.length, (withholdUnfinished terminal page).bytes = page.bytes.take count ∧
      Valid (page.bytes.take count) ∧
      (withholdUnfinished terminal page).nextCursor = page.startCursor + count ∧
      ((withholdUnfinished terminal page).eof = true ↔
        page.startCursor + count = page.totalBytes) ∧
      (terminal = true → count = page.bytes.length) := by
  by_cases hwhole : Valid page.bytes
  · have hcheck : check 0 page.bytes = none := hwhole
    unfold withholdUnfinished
    rw [hcheck]
    refine ⟨page.bytes.length, Nat.le_refl _, ?_, ?_, hnext, ?_, fun _ => rfl⟩
    · rw [List.take_length]
    · rw [List.take_length]
      exact hwhole
    · rw [heof, hnext]
  · rcases Utf8.check_begins hvalid with hnone | ⟨validUpTo, hunfinished⟩
    · exact absurd hnone hwhole
    · have hrunning : terminal = false := by
        rw [Bool.eq_false_iff]
        exact fun h => hwhole (hterminal h)
      obtain ⟨count, hcount, hupTo, hbefore, -⟩ := Utf8.check_unfinished hunfinished
      rw [Nat.zero_add] at hupTo
      subst hupTo
      unfold withholdUnfinished
      rw [hunfinished]
      dsimp only
      rw [if_pos ⟨hrunning, rfl⟩]
      have hlength : (page.bytes.take validUpTo).length = validUpTo := by
        rw [List.length_take, Nat.min_eq_left hcount]
      refine ⟨validUpTo, hcount, rfl, hbefore, by rw [hlength], ?_, ?_⟩
      · rw [hlength, beq_iff_eq]
      · rw [hrunning]
        intro hno
        cases hno

/-- A logs page of a file that grows to `content`, from a cursor on. -/
structure LogsPage.Covers (page : LogsPage) (content file : List UInt8) (after : Nat) : Prop where
  start : page.startCursor = after
  le : after ≤ page.nextCursor
  within : page.nextCursor ≤ file.length
  text : content.take page.nextCursor = content.take after ++ page.transcript
  valid : Valid (content.take page.nextCursor)
  eof : page.eof = true ↔ page.nextCursor = file.length
  progress : page.terminal = true → page.eof = false → after < page.nextCursor

theorem logs_ok {content : List UInt8} (hvalid : Valid content) {request : LogsRequest}
    (hfile : request.file.getD [] <+: content)
    (hterminal : request.terminal = true → request.file.getD [] = content)
    (hlimit : 1 ≤ request.limit ∧ request.limit ≤ 65536) {after : Nat}
    (hafter : after ≤ (request.file.getD []).length) (hbefore : Valid (content.take after)) :
    ∃ page, logs request.terminal request.file after request.limit false = .ok page ∧
      page.terminal = request.terminal ∧
      page.Covers content (request.file.getD []) after := by
  obtain ⟨read, added, hread, hpage⟩ := readPage_file_ok hlimit hafter
  -- the bytes that were read are what the whole transcript has there
  have hrest : content.drop after = read.bytes ++ content.drop read.nextCursor := by
    obtain ⟨later, rfl⟩ := hfile
    have hle := hpage.next_le hafter
    rw [List.drop_append_of_le_length hafter, List.drop_append_of_le_length hle, hpage.split,
      List.append_assoc]
  have hvalidRest : Valid (read.bytes ++ content.drop read.nextCursor) := by
    rw [← hrest]
    refine Valid.of_append ?_ hbefore
    rw [List.take_append_drop]
    exact hvalid
  have hlength : read.bytes.length =
      min request.limit ((request.file.getD []).length - after) + added := by
    rw [hpage.bytes, List.length_take, Nat.min_eq_left hpage.last.within]
  have hover : request.terminal = true → Valid read.bytes := by
    intro hend
    rw [hpage.bytes]
    refine hpage.last.valid ?_
    rw [hterminal hend]
    refine Valid.of_append ?_ hbefore
    rw [List.take_append_drop]
    exact hvalid
  have hnext : read.nextCursor = read.startCursor + read.bytes.length := by
    rw [hpage.next, hpage.start, hlength]
  obtain ⟨count, hcount, hbytes, hwhole, hcursor, heof, hall⟩ :=
    withholdUnfinished_spec hvalidRest hover hnext (by rw [hpage.eof, hpage.total])
  have htext : content.take (after + count) = content.take after ++ read.bytes.take count := by
    rw [List.take_add, hrest, List.take_append_of_le_length hcount]
  have hle := hpage.next_le hafter
  rw [hpage.start] at hcursor heof hnext
  rw [hpage.total] at heof
  refine ⟨_, by rw [logs, if_neg (by simp), if_neg (by simp), hread], rfl, ?_⟩
  constructor
  · rw [withholdUnfinished_startCursor, hpage.start]
  · dsimp only
    omega
  · dsimp only
    omega
  · dsimp only
    rw [hcursor, hbytes, hwhole.lossy_eq, htext]
  · dsimp only
    rw [hcursor, htext]
    exact hbefore.append hwhole
  · dsimp only
    rw [heof, hcursor]
  · dsimp only
    intro hend hopen
    rw [Bool.eq_false_iff, Ne, heof] at hopen
    have hsame := hall hend
    omega

/-- Where a reader of these pages goes on. -/
def followedTo (after : Nat) (pages : List LogsPage) : Nat :=
  (pages.getLast?.map (·.nextCursor)).getD after

/-- The reader that follows has at any time the transcript up to its cursor. -/
theorem followLogs_ok {content : List UInt8} (hvalid : Valid content) {requests : List LogsRequest}
    (hlimits : PageLimits (requests.map (·.limit))) {after : Nat} {seen : List UInt8}
    (hgrows : GrowsTo content seen requests) (hafter : after ≤ seen.length)
    (hbefore : Valid (content.take after)) :
    ∃ pages, followLogs after requests = .ok pages ∧
      content.take (followedTo after pages) =
        content.take after ++ (pages.map (·.transcript)).flatten ∧
      (∀ page ∈ pages, page.terminal = true → page.eof = false →
        page.startCursor < page.nextCursor) ∧
      (∀ page ∈ pages.getLast?, page.terminal = true → page.eof = true →
        followedTo after pages = content.length) := by
  induction requests generalizing after seen with
  | nil =>
      refine ⟨[], rfl, by simp [followedTo], ?_, ?_⟩
      · intro page hpage
        cases hpage
      · intro page hpage
        cases hpage
  | cons request later ih =>
      obtain ⟨hseen, hfile, hterminal, hlater⟩ := hgrows
      obtain ⟨page, hpage, hover, hcovers⟩ := logs_ok hvalid hfile hterminal
        (hlimits _ List.mem_cons_self) (hafter.trans hseen.length_le) hbefore
      obtain ⟨pages, hpages, htexts, hprogress, hlast⟩ :=
        ih (fun limit hlimit => hlimits limit (List.mem_cons_of_mem _ hlimit)) hlater
          hcovers.within hcovers.valid
      have hcursor : followedTo after (page :: pages) = followedTo page.nextCursor pages := by
        unfold followedTo
        rw [List.getLast?_cons]
        cases pages.getLast? with
        | none => rfl
        | some last => rfl
      refine ⟨page :: pages, ?_, ?_, ?_, ?_⟩
      · rw [followLogs, hpage]
        dsimp only
        rw [hpages]
      · rw [hcursor, htexts, hcovers.text, List.map_cons, List.flatten_cons, List.append_assoc]
      · intro other hother hend hopen
        rcases List.mem_cons.mp hother with rfl | hrest
        · rw [hcovers.start]
          exact hcovers.progress hend hopen
        · exact hprogress other hrest hend hopen
      · intro other hother hend heof
        rw [hcursor]
        rw [List.getLast?_cons] at hother
        cases hpagesLast : pages.getLast? with
        | none =>
            rw [hpagesLast] at hother
            cases hother
            have hall := hterminal (hover.symm.trans hend)
            rw [followedTo, hpagesLast, ← hall]
            exact hcovers.eof.mp heof
        | some last =>
            rw [hpagesLast] at hother
            cases hother
            exact hlast last hpagesLast hend heof

/-! ## What pages are for -/

/-- Pages tile the file, keep the characters of a valid file whole, decode to what the file decodes
    to, and follow a transcript that is still written. -/
structure TranscriptPages (content : List UInt8) : Prop where
  /-- Pages from the start on are contiguous, reach the end, and then are the file. -/
  tiles : ∀ limits, PageLimits limits →
    ∃ pages, readPages (some content) 0 limits = .ok pages ∧ Contiguous content 0 pages ∧
      (content.length < limits.length → ReachesEnd pages) ∧
      (ReachesEnd pages → (pages.map (·.bytes)).flatten = content)
  /-- No page of a valid file splits a character. -/
  whole : Valid content → ∀ limits pages, PageLimits limits →
    readPages (some content) 0 limits = .ok pages → ∀ page ∈ pages, Valid page.bytes
  /-- A tail page is a suffix of the file, and of a valid one it splits no character. -/
  tail : ∀ limit, 1 ≤ limit ∧ limit ≤ 65536 →
    ∃ page, readTail (some content) limit = .ok page ∧
      page.bytes = content.drop page.startCursor ∧ page.nextCursor = content.length ∧
      page.eof = true ∧ (Valid content → Valid page.bytes)
  /-- The decoded pages are the decoded file. -/
  lossless : ∀ limits pages, PageLimits limits → readPages (some content) 0 limits = .ok pages →
    ReachesEnd pages → (pages.map fun page => lossy page.bytes).flatten = lossy content
  /-- A reader that follows has the transcript up to its cursor, and all of it at the end. -/
  follows : Valid content → ∀ requests, PageLimits (requests.map (·.limit)) →
    GrowsTo content [] requests →
    ∃ pages, followLogs 0 requests = .ok pages ∧
      (pages.map (·.transcript)).flatten = content.take (followedTo 0 pages) ∧
      (∀ page ∈ pages, page.terminal = true → page.eof = false →
        page.startCursor < page.nextCursor) ∧
      (∀ page ∈ pages.getLast?, page.terminal = true → page.eof = true →
        (pages.map (·.transcript)).flatten = content)

/-- Pages do what they are for exactly for a file without an overrun. -/
theorem transcript_pages_iff (content : List UInt8) :
    TranscriptPages content ↔ ¬ ∃ place, Overrun content place := by
  have hstart : ¬ Splits (content.take 0) (content.drop 0) := by
    rw [List.take_zero]
    exact fun hsplits => hsplits.1 Utf8.held_nil
  have hread : ∀ {limits pages}, PageLimits limits →
      readPages (some content) 0 limits = .ok pages → PagesFrom content 0 limits pages := by
    intro limits pages hlimits hpages
    obtain ⟨found, hfound, hfrom⟩ := readPages_ok hlimits (Nat.zero_le content.length)
    rw [hpages] at hfound
    cases hfound
    exact hfrom
  constructor
  · rintro h ⟨place, hoverrun⟩
    have hlossless : LosslessFrom content 0 := h.lossless
    have hplace : 0 < place := by
      rw [Nat.pos_iff_ne_zero]
      rintro rfl
      exact hoverrun.1 0 (by omega) Utf8.held_nil
    exact hlossless.not_overrun hstart hplace hoverrun
  · intro hnone
    constructor
    · intro limits hlimits
      obtain ⟨pages, hpages, hfrom⟩ := readPages_ok hlimits (Nat.zero_le content.length)
      refine ⟨pages, hpages, hfrom.contiguous hlimits (Nat.zero_le _), ?_, hfrom.flatten⟩
      intro hlong
      exact hfrom.reachesEnd hlimits (Nat.zero_le _) (by omega)
    · intro hvalid limits pages hlimits hpages
      exact (hread hlimits hpages).valid hvalid Valid.nil
    · intro limit hlimit
      obtain ⟨page, hpage, hbytes, hnext, heof, hplace⟩ := readTail_ok content hlimit
      refine ⟨page, hpage, hbytes, hnext, heof, fun hvalid => ?_⟩
      rw [hbytes]
      refine Valid.of_append (a := content.take page.startCursor) ?_ ?_
      · rw [List.take_append_drop]
        exact hvalid
      · rw [hplace]
        by_cases hempty : content.length = 0
        · rw [List.length_eq_zero_iff.mp hempty, List.take_nil]
          exact Valid.nil
        · exact alignTail_valid hvalid (by omega)
    · intro limits pages hlimits hpages hend
      exact (hread hlimits hpages).lossless hlimits hnone (Nat.zero_le _) hstart hend
    · intro hvalid requests hlimits hgrows
      obtain ⟨pages, hpages, htexts, hprogress, hlast⟩ :=
        followLogs_ok hvalid hlimits hgrows (Nat.zero_le _) Valid.nil
      rw [List.take_zero, List.nil_append] at htexts
      refine ⟨pages, hpages, htexts.symm, hprogress, fun page hpage hend heof => ?_⟩
      rw [← htexts, hlast page hpage hend heof, List.take_length]

/-- Two first bytes of a four-byte character and then the rest of it: a page of one byte reads three
    more, and the last byte of the character comes alone. -/
def interruptedCharacter : List UInt8 := [0xf0, 0xf0, 0x9f, 0xa6, 0x80]

/-- Its pages of one byte. -/
def interruptedPages : List TranscriptPage :=
  [{ bytes := [0xf0, 0xf0, 0x9f, 0xa6], startCursor := 0, totalBytes := 5, partialHead := false,
     nextCursor := 4, eof := false, incompleteTail := true },
   { bytes := [0x80], startCursor := 4, totalBytes := 5, partialHead := true,
     nextCursor := 5, eof := true, incompleteTail := true }]

/-- They decode to three replacement characters, and the file to one and the character. -/
theorem interrupted_character_split : ¬ TranscriptPages interruptedCharacter := by
  intro h
  have hlimits : PageLimits [1, 1] := by
    intro limit hmem
    rw [List.eq_of_mem_replicate (n := 2) hmem]
    decide
  have hread : readPages (some interruptedCharacter) 0 [1, 1] = .ok interruptedPages := by
    have hoption : (readPages (some interruptedCharacter) 0 [1, 1]).toOption =
        some interruptedPages := by
      decide +kernel
    cases hpages : readPages (some interruptedCharacter) 0 [1, 1] with
    | error error =>
        rw [hpages] at hoption
        cases hoption
    | ok pages =>
        rw [hpages] at hoption
        cases hoption
        rfl
  have hend : ReachesEnd interruptedPages := ⟨_, rfl, rfl⟩
  have hsame := h.lossless [1, 1] interruptedPages hlimits hread hend
  revert hsame
  decide +kernel

end Coterie
