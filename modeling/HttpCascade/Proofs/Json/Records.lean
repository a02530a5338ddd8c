import HttpCascade.Json.Records
import HttpCascade.Proofs.Json.Settings
import HttpCascade.Proofs.NameMap

/-!
# Records in JSON

Requests, partial requests and configurations lose nothing in JSON: they are read from whatever text
of their JSON value, in particular from what is printed for them.

## Main result

`records_read_back`: the compact and the indented text of a record are read as this record, whatever
the order of the headers in it.
-/

namespace HttpCascade

open Json

theorem Json.reads_option {o : Option Text} {written : Text} (writes : Writes (optionJson o) written)
    (expected : String) : Reads (readOption fun c => readText c expected) o written := by
  intro c gap rest isGap stops here
  cases o with
  | none =>
    cases writes
    have skipped : c.skipSpace.rest = 'n' :: ("ull".toList ++ rest) := skipSpace_gap isGap rfl here
    simp only [readOption, skipped]
    exact literal_append skipped none
  | some t =>
    have reads := reads_text writes expected
    cases writes with
    | @text _ inside spells =>
      have skipped : c.skipSpace.rest = '"' :: (inside ++ ['"'] ++ rest) :=
        skipSpace_gap isGap rfl here
      simp only [readOption, skipped]
      exact (reads c.skipSpace [] rest isGap_nil stops skipped).map some

/-! ### Requests -/

namespace RequestFields

variable {α β : Type}

/-- A request fills its four fields, whatever its method and its URL are and are written as. -/
theorem fills_request {r : RecordReader (RequestFields α) β} {readLine : Cursor → Result α}
    {json : α → Value} (isField : r.field? = field?) (isRead : r.readField = read readLine)
    (readsLine : ∀ line written, Writes (json line) written → Reads readLine line written)
    (method url : α) (entries : List (Text × Text)) (body : Text) :
    Fills r {} [("method", json method), ("url", json url), ("headers", headersJson entries),
      ("body", .text body)] ⟨some method, some url, some entries, some body⟩ := by
  have atMethod : ∀ written, Writes (json method) written →
      Reads (r.readField {} "method") ⟨some method, none, none, none⟩ written := by
    intro written writes
    rw [isRead]
    exact (readsLine _ _ writes).map fun line => RequestFields.mk (some line) none none none
  have atUrl : ∀ written, Writes (json url) written →
      Reads (r.readField ⟨some method, none, none, none⟩ "url")
        ⟨some method, some url, none, none⟩ written := by
    intro written writes
    rw [isRead]
    exact (readsLine _ _ writes).map fun line =>
      RequestFields.mk (some method) (some line) none none
  have atHeaders : ∀ written, Writes (headersJson entries) written →
      Reads (r.readField ⟨some method, some url, none, none⟩ "headers")
        ⟨some method, some url, some entries, none⟩ written := by
    intro written writes
    rw [isRead]
    exact (reads_pairs writes).map fun pairs =>
      RequestFields.mk (some method) (some url) (some pairs) none
  have atBody : ∀ written, Writes (.text body) written →
      Reads (r.readField ⟨some method, some url, some entries, none⟩ "body")
        ⟨some method, some url, some entries, some body⟩ written := by
    intro written writes
    rw [isRead]
    exact (reads_text writes "a string").map fun t =>
      RequestFields.mk (some method) (some url) (some entries) (some t)
  exact .cons (by rw [isField]; rfl) atMethod <| .cons (by rw [isField]; rfl) atUrl <|
    .cons (by rw [isField]; rfl) atHeaders <| .cons (by rw [isField]; rfl) atBody (.nil _)

end RequestFields

/-- A request is read from every text of it, whatever the order of its headers. -/
theorem Request.ofJson_eq {r : Request} {entries : List (Text × Text)} {written : Text}
    (perm : entries.Perm r.headers.entries)
    (writes : Writes (requestJson (.text r.method) (.text r.url) entries r.body) written) :
    Request.ofJson written = .ok r := by
  have fills := RequestFields.fills_request (r := RequestFields.requestReader) rfl rfl
    (fun _ _ writes => reads_text writes "a string") r.method r.url entries r.body
  have finish : RequestFields.requestReader.finish
      ⟨some r.method, some r.url, some entries, some r.body⟩ = .ok r := by
    show Except.ok (Request.mk r.method r.url (NameMap.ofList entries) r.body) = _
    rw [NameMap.ofList_of_perm perm]
  exact readWhole_eq (reads_record fills finish writes)

theorem PartialRequest.ofJson_eq {p : PartialRequest} {entries : List (Text × Text)}
    {written : Text} (perm : entries.Perm p.headers.entries)
    (writes : Writes (requestJson (optionJson p.method) (optionJson p.url) entries p.body) written) :
    PartialRequest.ofJson written = .ok p := by
  have fills := RequestFields.fills_request (r := RequestFields.partialReader) rfl rfl
    (fun _ _ writes => reads_option writes "a string") p.method p.url entries p.body
  have finish : RequestFields.partialReader.finish
      ⟨some p.method, some p.url, some entries, some p.body⟩ = .ok p := by
    show Except.ok (PartialRequest.mk p.method p.url (NameMap.ofList entries) p.body) = _
    rw [NameMap.ofList_of_perm perm]
  exact readWhole_eq (reads_record fills finish writes)

/-! ### What is printed -/

/-- What is printed for a request, a partial request or a configuration, on one line or on many, is
read as the same request, partial request or configuration, in whatever order the headers come. -/
theorem Json.records_read_back :
    (∀ (r : Request) (entries : List (Text × Text)), entries.Perm r.headers.entries →
      let json := requestJson (.text r.method) (.text r.url) entries r.body
      Request.ofJson json.compact = .ok r ∧ Request.ofJson (json.pretty 0) = .ok r) ∧
    (∀ (p : PartialRequest) (entries : List (Text × Text)), entries.Perm p.headers.entries →
      let json := requestJson (optionJson p.method) (optionJson p.url) entries p.body
      PartialRequest.ofJson json.compact = .ok p ∧
        PartialRequest.ofJson (json.pretty 0) = .ok p) ∧
    (∀ c : Config, Config.parse c.toJson.compact = .ok c ∧
      Config.parse (c.toJson.pretty 0) = .ok c) := by
  refine ⟨fun r entries perm => ?_, fun p entries perm => ?_, fun c => ?_⟩
  · exact ⟨Request.ofJson_eq perm (writes_compact _), Request.ofJson_eq perm (writes_pretty 0 _)⟩
  · exact ⟨PartialRequest.ofJson_eq perm (writes_compact _),
      PartialRequest.ofJson_eq perm (writes_pretty 0 _)⟩
  · exact ⟨Config.parse_eq (writes_compact _), Config.parse_eq (writes_pretty 0 _)⟩

/-- Headers in another order than that of their names, and characters of every kind. -/
theorem Json.records_read_back_two_headers :
    let r : Request := ⟨"get", "http://h/ä", .ofList [("A", "\"1\\"), ("B", [])], "\x01\n\t/"⟩
    let p : PartialRequest := ⟨none, some "http://h", r.headers, []⟩
    let c : Config := { shell := "sh \"-c\"", scriptTimeoutSecs := 0xFFFFFFFFFFFFFFFF }
    let entries : List (Text × Text) := [("B", []), ("A", "\"1\\")]
    let json := requestJson (.text r.method) (.text r.url) entries r.body
    let partialJson := requestJson (optionJson p.method) (optionJson p.url) entries p.body
    entries.Perm r.headers.entries ∧ entries.Perm p.headers.entries ∧
      (Request.ofJson json.compact = .ok r ∧ Request.ofJson (json.pretty 0) = .ok r) ∧
      (PartialRequest.ofJson partialJson.compact = .ok p ∧
        PartialRequest.ofJson (partialJson.pretty 0) = .ok p) ∧
      (Config.parse c.toJson.compact = .ok c ∧ Config.parse (c.toJson.pretty 0) = .ok c) := by
  intro r p c entries json partialJson
  have perm : entries.Perm r.headers.entries := by decide
  obtain ⟨requests, partials, configs⟩ := records_read_back
  exact ⟨perm, perm, requests r entries perm, partials p entries perm, configs c⟩

end HttpCascade
