/-
  Coterie.Supervisor.Detail

  Detail documents in pages (`supervisor/context.rs`: `document_page`).  A reader starts at byte 0
  and continues at the cursor of the last page, with the revision of the first one: the digest of
  the whole document, so that no page of another version is taken for a continuation.
-/

import Coterie.Base.Except
import Coterie.Base.Utf8
import Coterie.Supervisor.Progress

namespace Coterie

/-! ## Pages -/

structure DetailPage where
  text : List UInt8
  revision : String
  nextCursor : Nat
  totalBytes : Nat
  eof : Bool
deriving DecidableEq, Repr

/-- A byte in two lower-case hexadecimal digits. -/
def hexDigits (byte : UInt8) : List Char :=
  [Nat.digitChar (byte.toNat / 16), Nat.digitChar (byte.toNat % 16)]

/-- The digest of a document as text. -/
def detailRevision (digest : List UInt8 → List UInt8) (document : Utf8.Str) : String :=
  .ofList ((digest document.bytes).flatMap hexDigits)

/-- The page of a document from `after` on. -/
def detailPage (digest : List UInt8 → List UInt8) (document : Utf8.Str) (after limit : Nat) :
    DetailPage :=
  let stop := min document.bytes.length (after + limit)
  let stop := Utf8.ceilBoundary document.bytes (document.bytes.length - stop) stop
  {
    text := (document.bytes.drop after).take (stop - after)
    revision := detailRevision digest document
    nextCursor := stop
    totalBytes := document.bytes.length
    eof := stop == document.bytes.length
  }

/-- One page of a serialized document, for the revision that the reader expects. -/
def documentPage (digest : List UInt8 → List UInt8) (document : Utf8.Str) (after limit : Nat)
    (expectedRevision : Option String) : Except RequestError DetailPage := do
  Except.refuseIf (¬ (1 ≤ limit ∧ limit ≤ 65536))
    (invalidArgument "detail limit must be between 1 and 65536")
  Except.refuseIf (after ≠ 0 ∧ expectedRevision = none)
    (invalidArgument "detail continuation requires the first page's revision")
  Except.refuseIf (expectedRevision.any (· != detailRevision digest document) = true)
    (.rpc .conflict "detail document changed; restart at byte zero without a revision")
  Except.refuseIf
    (¬ (after ≤ document.bytes.length ∧ Utf8.isBoundary document.bytes after = true))
    (invalidArgument "detail cursor is outside the document or splits a UTF-8 character")
  pure (detailPage digest document after limit)

/-- A request of a reader: the document as it is at that time, and the limit. -/
structure DetailRequest where
  document : Utf8.Str
  limit : Nat

/-- Read on until the document ends or the requests do. -/
def readDetail (digest : List UInt8 → List UInt8) (after : Nat) (revision : Option String) :
    List DetailRequest → Except RequestError (List DetailPage)
  | [] => .ok []
  | request :: rest => do
      let page ← documentPage digest request.document after request.limit revision
      if page.eof then
        pure [page]
      else do
        let later ← readDetail digest page.nextCursor (some (revision.getD page.revision)) rest
        pure (page :: later)

/-! ## One page -/

theorem digitChar_inj {m n : Nat} (hm : m < 16) (hn : n < 16)
    (h : Nat.digitChar m = Nat.digitChar n) : m = n := by
  have hall : ∀ m n : Fin 16, Nat.digitChar m = Nat.digitChar n → m = n := by decide
  exact congrArg Fin.val (hall ⟨m, hm⟩ ⟨n, hn⟩ h)

/-- The digits tell the bytes. -/
theorem flatMap_hexDigits_inj {a b : List UInt8} (h : a.flatMap hexDigits = b.flatMap hexDigits) :
    a = b := by
  induction a generalizing b with
  | nil =>
      cases b with
      | nil => rfl
      | cons byte rest => cases h
  | cons byte rest ih =>
      cases b with
      | nil => cases h
      | cons byte' rest' =>
          simp only [List.flatMap_cons, hexDigits, List.cons_append, List.nil_append,
            List.cons.injEq] at h
          obtain ⟨hhigh, hlow, hrest⟩ := h
          have hdiv := digitChar_inj (by have := byte.toNat_lt; omega)
            (by have := byte'.toNat_lt; omega) hhigh
          have hmod := digitChar_inj (Nat.mod_lt _ (by omega)) (Nat.mod_lt _ (by omega)) hlow
          have hbyte : byte = byte' := UInt8.toNat_inj.mp (by omega)
          rw [hbyte, ih hrest]

/-- Documents with the same revision are the same. -/
theorem detailRevision_inj {digest : List UInt8 → List UInt8} (hdigest : digest.Injective)
    {document document' : Utf8.Str}
    (h : detailRevision digest document = detailRevision digest document') :
    document = document' := by
  have hdigits := flatMap_hexDigits_inj (String.ofList_injective h)
  exact Utf8.Str.ext (hdigest hdigits)

section Page

variable {digest : List UInt8 → List UInt8} {document : Utf8.Str} {after limit : Nat}

/-- A page starts and ends at boundaries, at most three bytes behind its limit. -/
theorem detailPage_spec (digest : List UInt8 → List UInt8) (hafter : document.Boundary after)
    (limit : Nat) :
    ∃ size, (detailPage digest document after limit).text =
        (document.bytes.drop after).take size ∧
      (detailPage digest document after limit).nextCursor = after + size ∧
      document.Boundary (after + size) ∧ size ≤ limit + 3 ∧
      (1 ≤ limit → after < document.bytes.length → 0 < size) := by
  obtain ⟨added, hadded, hceil, hle, hvalid⟩ := document.valid.ceilBoundary
    (Nat.min_le_left document.bytes.length (after + limit))
  have hwithin := hafter.1
  refine ⟨min document.bytes.length (after + limit) + added - after, ?_, ?_, ?_, ?_, ?_⟩
  · show (document.bytes.drop after).take (Utf8.ceilBoundary document.bytes _ _ - after) = _
    rw [hceil]
  · show Utf8.ceilBoundary document.bytes _ _ = _
    rw [hceil]
    omega
  · rw [show after + (min document.bytes.length (after + limit) + added - after) =
      min document.bytes.length (after + limit) + added by omega]
    exact ⟨hle, hvalid⟩
  · omega
  · omega

/-- A request at a boundary for the revision of the document is answered. -/
theorem documentPage_ok (hafter : document.Boundary after) (hlimit : 1 ≤ limit ∧ limit ≤ 65536)
    {revision : Option String}
    (hrevision : revision = none ∧ after = 0 ∨ revision = some (detailRevision digest document)) :
    documentPage digest document after limit revision =
      .ok (detailPage digest document after limit) := by
  have hcontinues : ¬ (after ≠ 0 ∧ revision = none) := by
    rintro ⟨hne, hnone⟩
    rcases hrevision with ⟨-, hzero⟩ | hsome
    · exact hne hzero
    · rw [hsome] at hnone
      cases hnone
  have hsame : ¬ revision.any (· != detailRevision digest document) = true := by
    rcases hrevision with ⟨hnone, -⟩ | hsome
    · simp [hnone]
    · simp [hsome]
  have hboundary : after ≤ document.bytes.length ∧
      Utf8.isBoundary document.bytes after = true :=
    ⟨hafter.1, Utf8.Str.boundary_iff.mp hafter⟩
  unfold documentPage Except.refuseIf
  rw [if_neg (not_not.mpr hlimit), if_neg hcontinues, if_neg hsame, if_neg (not_not.mpr hboundary)]
  rfl

/-- What an answered request was about. -/
theorem documentPage_eq_ok {revision : Option String} {page : DetailPage}
    (h : documentPage digest document after limit revision = .ok page) :
    (1 ≤ limit ∧ limit ≤ 65536) ∧ document.Boundary after ∧
      (∀ expected, revision = some expected → expected = detailRevision digest document) ∧
      page = detailPage digest document after limit := by
  obtain ⟨_, hlimit, h⟩ := Except.bind_eq_ok.mp h
  obtain ⟨_, -, h⟩ := Except.bind_eq_ok.mp h
  obtain ⟨_, hsame, h⟩ := Except.bind_eq_ok.mp h
  obtain ⟨_, hboundary, h⟩ := Except.bind_eq_ok.mp h
  rw [Except.refuseIf_eq_ok, not_not] at hlimit hboundary
  rw [Except.refuseIf_eq_ok] at hsame
  refine ⟨hlimit, Utf8.Str.boundary_iff.mpr hboundary.2, ?_, (Except.pure_eq_ok.mp h).symm⟩
  rintro expected rfl
  simpa using hsame

/-- A continuation of another version is refused. -/
theorem documentPage_conflict (hdigest : digest.Injective) {document' : Utf8.Str}
    (hchanged : document' ≠ document) (hlimit : 1 ≤ limit ∧ limit ≤ 65536) :
    documentPage digest document' after limit (some (detailRevision digest document)) =
      .error (.rpc .conflict
        "detail document changed; restart at byte zero without a revision") := by
  have hother : (some (detailRevision digest document)).any
      (· != detailRevision digest document') = true := by
    simp only [Option.any_some, bne_iff_ne]
    exact fun hsame => hchanged (detailRevision_inj hdigest hsame).symm
  unfold documentPage Except.refuseIf
  rw [if_neg (not_not.mpr hlimit), if_neg (by simp), if_pos hother]
  rfl

end Page

/-! ## Reading on -/

/-- What is read from a boundary of a document on. -/
structure Continues (document : Utf8.Str) (after : Nat) (requests : List DetailRequest)
    (pages : List DetailPage) : Prop where
  same : ∀ request ∈ requests.take pages.length, request.document = document
  whole : ∀ page ∈ pages, Utf8.Valid page.text
  bounded : ∀ entry ∈ pages.zip (requests.map (·.limit)), entry.1.text.length ≤ entry.2 + 3
  progress : ∀ page ∈ pages, 0 < page.text.length ∨ after = document.bytes.length
  assembled : ∀ last, pages.getLast? = some last → last.eof = true →
    pages.flatMap (·.text) = document.bytes.drop after

section Reading

variable {digest : List UInt8 → List UInt8} {document : Utf8.Str} {after : Nat}
  {revision : Option String} {requests : List DetailRequest} {pages : List DetailPage}

theorem Continues.nil (document : Utf8.Str) (after : Nat) (requests : List DetailRequest) :
    Continues document after requests [] :=
  ⟨by simp, by simp, by simp, by simp, by simp⟩

/-- One page more. -/
theorem Continues.cons (digest : List UInt8 → List UInt8) {limit : Nat}
    {later : List DetailPage} (hafter : document.Boundary after) (hlimit : 1 ≤ limit)
    (hlater : Continues document (detailPage digest document after limit).nextCursor requests later)
    (hends : (detailPage digest document after limit).eof = true → later = []) :
    Continues document after ({ document, limit } :: requests)
      (detailPage digest document after limit :: later) := by
  obtain ⟨size, htext, hnext, hboundary, hsize, hpositive⟩ :=
    detailPage_spec digest hafter limit
  have heof : (detailPage digest document after limit).eof =
      ((detailPage digest document after limit).nextCursor == document.bytes.length) := rfl
  have hlength : (detailPage digest document after limit).text.length = size := by
    have hwithin := hboundary.1
    rw [htext, List.length_take, List.length_drop]
    omega
  rw [hnext] at hlater heof
  constructor
  · intro request hrequest
    rw [List.length_cons, List.take_succ_cons, List.mem_cons] at hrequest
    rcases hrequest with rfl | hrequest
    · rfl
    · exact hlater.same request hrequest
  · intro page hpage
    rcases List.mem_cons.mp hpage with rfl | hpage
    · rw [htext]
      exact hafter.between hboundary
    · exact hlater.whole page hpage
  · intro entry hentry
    rw [List.map_cons, List.zip_cons_cons] at hentry
    rcases List.mem_cons.mp hentry with rfl | hentry
    · show (detailPage digest document after limit).text.length ≤ limit + 3
      omega
    · exact hlater.bounded entry hentry
  · intro page hpage
    rcases List.mem_cons.mp hpage with rfl | hpage
    · have hwithin := hafter.1
      by_cases hexhausted : after = document.bytes.length
      · exact .inr hexhausted
      · left
        rw [hlength]
        exact hpositive hlimit (by omega)
    · -- the pages behind the end of the document are none
      rcases hlater.progress page hpage with hsome | hexhausted
      · exact .inl hsome
      · rw [hends (by rw [heof, hexhausted, beq_self_eq_true])] at hpage
        cases hpage
  · intro last hlast hlastEof
    rw [List.flatMap_cons, htext]
    cases later with
    | nil =>
        rw [List.getLast?_singleton, Option.some.injEq] at hlast
        rw [← hlast, heof] at hlastEof
        rw [List.flatMap_nil, List.append_nil]
        refine List.take_of_length_le ?_
        rw [List.length_drop, ← eq_of_beq hlastEof]
        omega
    | cons second rest =>
        rw [List.getLast?_cons_cons] at hlast
        rw [hlater.assembled last hlast hlastEof, ← List.drop_drop, List.take_append_drop]

/-- The pages of a successful reading. -/
theorem readDetail_cons {request : DetailRequest}
    (h : readDetail digest after revision (request :: requests) = .ok pages) :
    ∃ page later, pages = page :: later ∧
      documentPage digest request.document after request.limit revision = .ok page ∧
      (page.eof = true → later = []) ∧ (page.eof = false →
        readDetail digest page.nextCursor (some (revision.getD page.revision)) requests =
          .ok later) := by
  obtain ⟨page, hpage, h⟩ := Except.bind_eq_ok.mp h
  by_cases heof : page.eof = true
  · rw [if_pos heof] at h
    obtain rfl := Except.pure_eq_ok.mp h
    refine ⟨page, [], rfl, hpage, fun _ => rfl, fun hmore => ?_⟩
    rw [heof] at hmore
    cases hmore
  · rw [if_neg heof] at h
    obtain ⟨later, hlater, h⟩ := Except.bind_eq_ok.mp h
    obtain rfl := Except.pure_eq_ok.mp h
    exact ⟨page, later, rfl, hpage, fun hend => absurd hend heof, fun _ => hlater⟩

/-- With the revision of a document, only that document is read. -/
theorem readDetail_continues (hdigest : digest.Injective) (hafter : document.Boundary after)
    (h : readDetail digest after (some (detailRevision digest document)) requests = .ok pages) :
    Continues document after requests pages := by
  induction requests generalizing after pages with
  | nil =>
      cases h
      exact .nil _ _ _
  | cons request rest ih =>
      obtain ⟨document', limit⟩ := request
      obtain ⟨page, later, rfl, hpage, hends, hlater⟩ := readDetail_cons h
      obtain ⟨hlimit, -, hexpected, rfl⟩ := documentPage_eq_ok hpage
      obtain rfl : document = document' := detailRevision_inj hdigest (hexpected _ rfl)
      obtain ⟨size, -, hnext, hboundary, -⟩ := detailPage_spec digest hafter limit
      refine .cons digest hafter hlimit.1 ?_ hends
      cases heof : (detailPage digest document after limit).eof with
      | true =>
          rw [hends heof]
          exact .nil _ _ _
      | false =>
          refine ih ?_ (hlater heof)
          rw [hnext]
          exact hboundary

/-- Without a revision, the document of the first page is read. -/
theorem readDetail_start (hdigest : digest.Injective)
    (h : readDetail digest 0 none requests = .ok pages) :
    ∃ document, Continues document 0 requests pages := by
  cases requests with
  | nil =>
      cases h
      exact ⟨⟨[], Utf8.Valid.nil⟩, .nil _ _ _⟩
  | cons request rest =>
      obtain ⟨document, limit⟩ := request
      obtain ⟨page, later, rfl, hpage, hends, hlater⟩ := readDetail_cons h
      obtain ⟨hlimit, hafter, -, rfl⟩ := documentPage_eq_ok hpage
      obtain ⟨size, -, hnext, hboundary, -⟩ := detailPage_spec digest hafter limit
      refine ⟨document, .cons digest hafter hlimit.1 ?_ hends⟩
      cases heof : (detailPage digest document 0 limit).eof with
      | true =>
          rw [hends heof]
          exact .nil _ _ _
      | false =>
          refine readDetail_continues hdigest ?_ (hlater heof)
          rw [hnext]
          exact hboundary

/-- A document that stays as it is is read on, and to its end with enough requests. -/
theorem readDetail_same (hafter : document.Boundary after)
    (hrevision : revision = none ∧ after = 0 ∨ revision = some (detailRevision digest document))
    {limits : List Nat} (hlimits : ∀ limit ∈ limits, 1 ≤ limit ∧ limit ≤ 65536) :
    ∃ pages, readDetail digest after revision (limits.map (DetailRequest.mk document)) = .ok pages ∧
      Continues document after (limits.map (DetailRequest.mk document)) pages ∧
      (document.bytes.length < after + limits.length →
        ∃ last, pages.getLast? = some last ∧ last.eof = true) := by
  induction limits generalizing after revision with
  | nil =>
      refine ⟨[], rfl, .nil _ _ _, fun hshort => ?_⟩
      have hwithin := hafter.1
      rw [List.length_nil] at hshort
      omega
  | cons limit limits ih =>
      have hlimit := hlimits limit List.mem_cons_self
      obtain ⟨size, -, hnext, hboundary, -, hpositive⟩ := detailPage_spec digest hafter limit
      rw [← hnext] at hboundary
      have hpage := documentPage_ok hafter hlimit hrevision
      by_cases heof : (detailPage digest document after limit).eof = true
      · refine ⟨[detailPage digest document after limit], ?_,
          .cons digest hafter hlimit.1 (.nil _ _ _) fun _ => rfl, fun _ => ⟨_, rfl, heof⟩⟩
        rw [List.map_cons, readDetail, hpage]
        exact if_pos heof
      · have hexpected : revision.getD (detailPage digest document after limit).revision =
            detailRevision digest document := by
          rcases hrevision with ⟨rfl, -⟩ | rfl
          · rfl
          · rfl
        have hmore : (detailPage digest document after limit).nextCursor ≠
            document.bytes.length := fun hend => heof (beq_iff_eq.mpr hend)
        obtain ⟨pages, hpages, hcontinues, hlast⟩ := ih hboundary
          (.inr (congrArg some hexpected))
          fun other hother => hlimits other (List.mem_cons_of_mem _ hother)
        refine ⟨detailPage digest document after limit :: pages, ?_,
          .cons digest hafter hlimit.1 hcontinues fun hend => absurd hend heof,
          fun hshort => ?_⟩
        · rw [List.map_cons, readDetail, hpage]
          refine (if_neg heof).trans ?_
          rw [hpages]
          rfl
        · have hwithin := hafter.1
          have hstop := hboundary.1
          rw [List.length_cons] at hshort
          obtain ⟨last, hlast, hlastEof⟩ := hlast (by
            have hsize := hpositive hlimit.1
            omega)
          refine ⟨last, ?_, hlastEof⟩
          cases pages with
          | nil => cases hlast
          | cons second rest => rwa [List.getLast?_cons_cons]

end Reading

/-- A reader of a document that stays gets all of it in pages.  One whose document changes gets a
    conflict, where the digests of two documents are never the same: what it has read is never of
    two versions. -/
theorem detail_pages (digest : List UInt8 → List UInt8) :
    (∀ document, ∀ limits : List Nat, (∀ limit ∈ limits, 1 ≤ limit ∧ limit ≤ 65536) →
      ∃ pages, readDetail digest 0 none (limits.map (DetailRequest.mk document)) = .ok pages ∧
        Continues document 0 (limits.map (DetailRequest.mk document)) pages ∧
        (document.bytes.length < limits.length →
          ∃ last, pages.getLast? = some last ∧ last.eof = true)) ∧
    (digest.Injective → ∀ requests pages, readDetail digest 0 none requests = .ok pages →
      ∃ document, Continues document 0 requests pages) ∧
    (digest.Injective → ∀ document document' after limit, document' ≠ document →
      1 ≤ limit ∧ limit ≤ 65536 →
        documentPage digest document' after limit (some (detailRevision digest document)) =
          .error (.rpc .conflict
            "detail document changed; restart at byte zero without a revision")) := by
  refine ⟨fun document limits hlimits => ?_, fun hdigest requests pages h =>
    readDetail_start hdigest h, fun hdigest document document' after limit hchanged hlimit =>
      documentPage_conflict hdigest hchanged hlimit⟩
  obtain ⟨pages, hpages, hcontinues, hlast⟩ := readDetail_same document.boundary_zero
    (.inl ⟨rfl, rfl⟩) hlimits
  exact ⟨pages, hpages, hcontinues, fun hshort => hlast (by omega)⟩

/-- The document `null`. -/
def nullDocument : Utf8.Str where
  bytes := [0x6e, 0x75, 0x6c, 0x6c]
  valid := .ascii (by decide)

/-- The document `true`. -/
def trueDocument : Utf8.Str where
  bytes := [0x74, 0x72, 0x75, 0x65]
  valid := .ascii (by decide)

/-- A digest that tells all documents: the SHA-256 digest of `null`, and longer ones for all
    others. -/
def longDigest (bytes : List UInt8) : List UInt8 :=
  if bytes = nullDocument.bytes then
    [0x74, 0x23, 0x4e, 0x98, 0xaf, 0xe7, 0x49, 0x8f, 0xb5, 0xda, 0xf1, 0xf3, 0x6a, 0xc2, 0xd7, 0x8a,
      0xcc, 0x33, 0x94, 0x64, 0xf9, 0x50, 0x70, 0x3b, 0x8c, 0x01, 0x98, 0x92, 0xf9, 0x82, 0xb9, 0x0b]
  else bytes ++ List.replicate 33 0

theorem longDigest_injective : longDigest.Injective := by
  intro a b h
  unfold longDigest at h
  by_cases ha : a = nullDocument.bytes
  · by_cases hb : b = nullDocument.bytes
    · rw [ha, hb]
    · rw [if_pos ha, if_neg hb] at h
      have hlength := congrArg List.length h
      simp at hlength
  · by_cases hb : b = nullDocument.bytes
    · rw [if_neg ha, if_pos hb] at h
      have hlength := congrArg List.length h
      simp at hlength
    · rw [if_neg ha, if_neg hb] at h
      exact List.append_cancel_right h

/-- A reader gets `null` byte by byte, and a conflict when it becomes `true` on the way. -/
theorem detail_pages_null :
    (∃ pages, readDetail longDigest 0 none (List.replicate 5 ⟨nullDocument, 1⟩) = .ok pages ∧
      pages.flatMap (·.text) = nullDocument.bytes) ∧
    documentPage longDigest trueDocument 1 1 (some (detailRevision longDigest nullDocument)) =
      .error (.rpc .conflict
        "detail document changed; restart at byte zero without a revision") := by
  obtain ⟨hpages, -, hconflict⟩ := detail_pages longDigest
  refine ⟨?_, hconflict longDigest_injective nullDocument trueDocument 1 1 (by decide) (by decide)⟩
  obtain ⟨pages, hpages, hcontinues, hlast⟩ := hpages nullDocument (List.replicate 5 1) (by decide)
  obtain ⟨last, hlast, heof⟩ := hlast (by decide)
  exact ⟨pages, hpages, hcontinues.assembled last hlast heof⟩

end Coterie
