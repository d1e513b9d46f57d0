import SpeechModules.CBuffer
import SpeechModules.JsonText
import SpeechModules.PercentCode
import SpeechModules.SortedMap

/-!
# The token request of `AccessToken`

`AccessToken::apply` signs a canonical query string, sends it and reads token
and expire time from the JSON reply.  The query string can be decoded again.
The reply is read through accessors whose preconditions are only partly checked
before they are called.
-/

namespace SpeechModules

/-- The fields of the class `AccessToken`. -/
structure AccessToken where
  accessKeyId : List UInt8
  accessKeySecret : List UInt8
  domain : List UInt8
  regionId : List UInt8
  version : List UInt8
  action : List UInt8
  token : List UInt8
  expireTime : Int

namespace AccessToken

open JsonText PercentCode

/-- The constructor. -/
def create (accessKeyId accessKeySecret : List UInt8) : AccessToken where
  accessKeyId := accessKeyId
  accessKeySecret := accessKeySecret
  domain := bytesOf "nls-meta.cn-shanghai.aliyuncs.com"
  regionId := bytesOf "cn-shanghai"
  version := bytesOf "2019-02-28"
  action := bytesOf "CreateToken"
  token := []
  expireTime := 0

/-- `std::map<std::string, std::string>`: strings are compared as unsigned
bytes. -/
abbrev ParameterMap := SortedMap (List UInt8) (List UInt8)

/-! ## The query string -/

section Query

variable (code : PercentCode)

/-- `UrlEncode` through `curl_easy_escape`.  The encoding has no zero byte, so
nothing is lost when the C string becomes a `std::string`. -/
def urlEncode (source : List UInt8) : List UInt8 :=
  code.encode source

/-- `canonicalizedQuery`.  `substr(1)` throws on an empty string. -/
def canonicalizedQuery (queryParamsMap : ParameterMap) :
    Option (List UInt8) :=
  let canonicalizedQueryString := queryParamsMap.entries.foldl
    (fun query param => query ++ (ampersand :: urlEncode code param.1 ++
      equals :: urlEncode code param.2)) []
  if canonicalizedQueryString.length < 1 then none
  else some (canonicalizedQueryString.drop 1)

/-- `createStringToSign`. -/
def createStringToSign (method urlPath queryString : List UInt8) :
    List UInt8 :=
  method ++ ampersand :: urlEncode code urlPath ++
    ampersand :: urlEncode code queryString

/-- The name of the parameter that carries the signature. -/
def signatureKey : List UInt8 :=
  bytesOf "Signature"

/-- `queryStringWithSign` of `apply`. -/
def queryStringWithSign (signature queryString : List UInt8) : List UInt8 :=
  bytesOf "Signature=" ++ urlEncode code signature ++ bytesOf "&" ++ queryString

/-- The parameters of `apply`. -/
def queryParamsMap (self : AccessToken) (timestamp nonce : List UInt8) :
    ParameterMap :=
  SortedMap.ofList
    [(bytesOf "AccessKeyId", self.accessKeyId),
      (bytesOf "Action", self.action),
      (bytesOf "Version", self.version),
      (bytesOf "RegionId", self.regionId),
      (bytesOf "Timestamp", timestamp),
      (bytesOf "Format", bytesOf "JSON"),
      (bytesOf "SignatureMethod", bytesOf "HMAC-SHA1"),
      (bytesOf "SignatureVersion", bytesOf "1.0"),
      (bytesOf "SignatureNonce", nonce)]

theorem foldl_param (params : List (List UInt8 × List UInt8))
    (query : List UInt8) :
    params.foldl (fun query param => query ++
        (ampersand :: urlEncode code param.1 ++
          equals :: urlEncode code param.2)) query =
      query ++ params.flatMap fun param => ampersand :: code.encodePair param := by
  induction params generalizing query with
  | nil => simp
  | cons param params ih =>
      rw [List.foldl_cons, ih, List.flatMap_cons, List.append_assoc]
      rfl

theorem intercalate_ampersand (piece : List UInt8)
    (pieces : List (List UInt8)) :
    [ampersand].intercalate (piece :: pieces) =
      piece ++ pieces.flatMap fun other => ampersand :: other := by
  induction pieces generalizing piece with
  | nil => simp
  | cons other pieces ih =>
      rw [List.intercalate_cons_cons, ih, List.flatMap_cons, List.append_assoc]
      rfl

/-- The query string of a map with entries. -/
theorem canonicalizedQuery_eq {parameters : ParameterMap}
    (nonempty : parameters.entries ≠ []) :
    canonicalizedQuery code parameters =
      some (code.encodeQuery parameters.entries) := by
  obtain ⟨param, params, entriesEq⟩ := List.exists_cons_of_ne_nil nonempty
  rw [canonicalizedQuery, foldl_param, entriesEq, encodeQuery, List.map_cons,
    intercalate_ampersand, List.flatMap_map]
  rfl

theorem canonicalizedQuery_empty {parameters : ParameterMap}
    (empty : parameters.entries = []) :
    canonicalizedQuery code parameters = none := by
  rw [canonicalizedQuery, empty]
  rfl

/-- A map can be read off its query string. -/
theorem canonicalizedQuery_injective :
    Function.Injective (canonicalizedQuery code) := by
  intro first second same
  apply SortedMap.ext
  by_cases firstEmpty : first.entries = []
  · by_cases secondEmpty : second.entries = []
    · rw [firstEmpty, secondEmpty]
    · rw [canonicalizedQuery_empty code firstEmpty,
        canonicalizedQuery_eq code secondEmpty] at same
      cases same
  · by_cases secondEmpty : second.entries = []
    · rw [canonicalizedQuery_empty code secondEmpty,
        canonicalizedQuery_eq code firstEmpty] at same
      cases same
    · rw [canonicalizedQuery_eq code firstEmpty,
        canonicalizedQuery_eq code secondEmpty] at same
      have decoded := congrArg decodeQuery (Option.some.inj same)
      rw [code.decodeQuery_encodeQuery firstEmpty,
        code.decodeQuery_encodeQuery secondEmpty] at decoded
      exact Option.some.inj decoded

/-- The query string can be read off the string that is signed. -/
theorem createStringToSign_injective (method urlPath : List UInt8) :
    Function.Injective (createStringToSign code method urlPath) := by
  intro first second same
  have encoded := List.append_cancel_left same
  exact code.encode_injective (List.cons.inj encoded).2

/-- The signature is one more pair in front of the query string. -/
theorem queryStringWithSign_eq (signature : List UInt8)
    {params : List (List UInt8 × List UInt8)} (nonempty : params ≠ []) :
    queryStringWithSign code signature (code.encodeQuery params) =
      code.encodeQuery ((signatureKey, signature) :: params) := by
  obtain ⟨param, params, rfl⟩ := List.exists_cons_of_ne_nil nonempty
  have keyEncoded : code.encode signatureKey = bytesOf "Signature" := by
    have letters : ∀ byte ∈ signatureKey, code.encodeByte byte = [byte] := by
      intro byte member
      apply code.unreserved
      revert byte
      decide +kernel
    rw [encode, List.flatMap_congr letters, List.flatMap_singleton']
    rfl
  rw [encodeQuery, encodeQuery, List.map_cons, List.map_cons, List.map_cons,
    List.intercalate_cons_cons, queryStringWithSign]
  rw [show code.encodePair (signatureKey, signature) =
    code.encode signatureKey ++ equals :: code.encode signature from rfl,
    keyEncoded]
  simp only [List.append_assoc]
  rfl

/-- The signed request can be decoded, its query string built again from the
decoded parameters, and the signed string determines the parameters. -/
theorem signedQuery_roundTrip (parameters : ParameterMap)
    (nonempty : parameters.entries ≠ [])
    (unsigned : ∀ value, (signatureKey, value) ∉ parameters.entries)
    (signature : List UInt8) :
    ∃ queryString,
      canonicalizedQuery code parameters = some queryString ∧
      decodeQuery (queryStringWithSign code signature queryString) =
        some ((signatureKey, signature) :: parameters.entries) ∧
      parameters.entries.Pairwise (fun first second => first.1 < second.1) ∧
      canonicalizedQuery code (SortedMap.ofList
          (((signatureKey, signature) :: parameters.entries).filter
            fun param => param.1 ≠ signatureKey)) = some queryString ∧
      ∀ (other : ParameterMap) (otherString : List UInt8),
        canonicalizedQuery code other = some otherString →
          createStringToSign code (bytesOf "GET") (bytesOf "/") otherString =
            createStringToSign code (bytesOf "GET") (bytesOf "/")
              queryString →
          other = parameters := by
  have queryEq := canonicalizedQuery_eq code nonempty
  refine ⟨code.encodeQuery parameters.entries, queryEq, ?_,
    parameters.ascending, ?_, ?_⟩
  · rw [queryStringWithSign_eq code signature nonempty]
    exact code.decodeQuery_encodeQuery (List.cons_ne_nil _ _)
  · have dropped : (((signatureKey, signature) :: parameters.entries).filter
        fun param => param.1 ≠ signatureKey) = parameters.entries := by
      rw [List.filter_cons_of_neg (by simp)]
      apply List.filter_eq_self.mpr
      rintro ⟨name, value⟩ member
      apply decide_eq_true
      rintro rfl
      exact unsigned value member
    rw [dropped, SortedMap.ofList_entries, queryEq]
  · intro other otherString otherEq same
    apply canonicalizedQuery_injective code
    rw [otherEq, queryEq, createStringToSign_injective code _ _ same]

end Query

/-- Two parameters with separators, signs and an empty value. -/
def sampleParameters : ParameterMap where
  entries := [(bytesOf "A&b=", []), (bytesOf "Nonce", bytesOf "1+2 %&=/")]
  ascending := by decide

theorem signedQuery_roundTrip_sample :
    ∃ queryString,
      canonicalizedQuery upperCase sampleParameters = some queryString ∧
        decodeQuery (queryStringWithSign upperCase (bytesOf "s/+=")
            queryString) =
          some ((signatureKey, bytesOf "s/+=") :: sampleParameters.entries) := by
  obtain ⟨queryString, queryEq, decoded, -⟩ :=
    signedQuery_roundTrip upperCase sampleParameters (by decide)
      (by
        intro value member
        have key : signatureKey ∈ sampleParameters.entries.map Prod.fst :=
          List.mem_map_of_mem member
        revert key
        decide)
      (bytesOf "s/+=")
  exact ⟨queryString, queryEq, decoded⟩

/-! ## The reply -/

/-- What `curl_easy_perform` comes to. -/
inductive Transfer where
  | noHandle
  | failed
  | ok (response : List UInt8)

/-- How a call ends: it returns, an exception leaves it, or an assertion of the
JSON library stops the process. -/
inductive Outcome where
  | returned (self : AccessToken)
  | threw
  | aborted

/-- The member of that name; the first one if there are several. -/
def member? (name : List UInt8) : Value → Option Value
  | .object members => members.lookup name
  | _ => none

/-- `GetInt64` accepts the integers of 64 bits. -/
def int64? : Value → Option Int
  | .int value =>
      if -2 ^ 63 ≤ value ∧ value < 2 ^ 63 then some value else none
  | _ => none

/-- `doc.Parse(response.c_str())`: the text ends at the first zero byte, and a
document that cannot be parsed stays null. -/
def document (parse : List UInt8 → Option Value) (response : List UInt8) :
    Value :=
  (parse (response.takeWhile (· ≠ 0))).getD .null

/-- What `processGETRequest` does with the document.  `HasMember` and
`operator[]` are called before anything is known about it, the members of
`Token` without a test; `token` takes the C string of `Id`. -/
def readReply (self : AccessToken) : Value → Outcome
  | .object members =>
      match members.lookup (bytesOf "Token") with
      | none => .returned self
      | some (.object tokenObj) =>
          match tokenObj.lookup (bytesOf "Id") with
          | some (.string id) =>
              match (tokenObj.lookup (bytesOf "ExpireTime")).bind int64? with
              | some expireTime =>
                  .returned
                    { self with
                      token := id.takeWhile (· ≠ 0)
                      expireTime := expireTime }
              | none => .aborted
          | _ => .aborted
      | some _ => .returned self
  | _ => .aborted

/-- `processGETRequest`, from the result of the transfer on. -/
def processGETRequest (parse : List UInt8 → Option Value)
    (self : AccessToken) : Transfer → Outcome
  | .noHandle => .returned self
  | .failed => .returned self
  | .ok response => readReply self (document parse response)

/-- `apply`: build, sign and send the request.  The time, the nonce, the
signature and the transfer are supplied by the libraries. -/
def apply (code : PercentCode) (sign : List UInt8 → List UInt8 → List UInt8)
    (parse : List UInt8 → Option Value) (perform : List UInt8 → Transfer)
    (timestamp nonce : List UInt8) (self : AccessToken) : Outcome :=
  let self := { self with expireTime := 0 }
  match canonicalizedQuery code (queryParamsMap self timestamp nonce) with
  | none => .threw
  | some queryString =>
      let stringToSign :=
        createStringToSign code (bytesOf "GET") (bytesOf "/") queryString
      let signature := sign stringToSign (self.accessKeySecret ++ bytesOf "&")
      let queryString := queryStringWithSign code signature queryString
      processGETRequest parse self
        (perform (bytesOf "http://" ++ self.domain ++ bytesOf "/?" ++ queryString))

/-- `apply` always sends a request, and this is what it says. -/
theorem apply_eq (code : PercentCode)
    (sign : List UInt8 → List UInt8 → List UInt8)
    (parse : List UInt8 → Option Value) (perform : List UInt8 → Transfer)
    (timestamp nonce : List UInt8) (self : AccessToken) :
    ∃ request signature,
      apply code sign parse perform timestamp nonce self =
        processGETRequest parse { self with expireTime := 0 }
          (perform (bytesOf "http://" ++ self.domain ++ bytesOf "/?" ++
            request)) ∧
      decodeQuery request =
        some [(signatureKey, signature),
          (bytesOf "AccessKeyId", self.accessKeyId),
          (bytesOf "Action", self.action),
          (bytesOf "Format", bytesOf "JSON"),
          (bytesOf "RegionId", self.regionId),
          (bytesOf "SignatureMethod", bytesOf "HMAC-SHA1"),
          (bytesOf "SignatureNonce", nonce),
          (bytesOf "SignatureVersion", bytesOf "1.0"),
          (bytesOf "Timestamp", timestamp),
          (bytesOf "Version", self.version)] := by
  generalize parametersEq :
    queryParamsMap { self with expireTime := 0 } timestamp nonce = parameters
  have entries : parameters.entries =
      [(bytesOf "AccessKeyId", self.accessKeyId),
        (bytesOf "Action", self.action),
        (bytesOf "Format", bytesOf "JSON"),
        (bytesOf "RegionId", self.regionId),
        (bytesOf "SignatureMethod", bytesOf "HMAC-SHA1"),
        (bytesOf "SignatureNonce", nonce),
        (bytesOf "SignatureVersion", bytesOf "1.0"),
        (bytesOf "Timestamp", timestamp),
        (bytesOf "Version", self.version)] := by
    rw [← parametersEq]
    rfl
  have nonempty : parameters.entries ≠ [] := by
    rw [entries]
    exact List.cons_ne_nil _ _
  have queryEq := canonicalizedQuery_eq code nonempty
  simp only [apply, parametersEq, queryEq]
  generalize sign (createStringToSign code (bytesOf "GET") (bytesOf "/")
    (code.encodeQuery parameters.entries))
    (self.accessKeySecret ++ bytesOf "&") = signature
  refine ⟨_, signature, rfl, ?_⟩
  rw [queryStringWithSign_eq code signature nonempty,
    code.decodeQuery_encodeQuery (List.cons_ne_nil _ _), entries]

/-- The token and the expire time of a reply that has both. -/
def tokenReply (reply : Value) : Option (List UInt8 × Int) :=
  match member? (bytesOf "Token") reply with
  | some tokenObj =>
      match member? (bytesOf "Id") tokenObj,
        (member? (bytesOf "ExpireTime") tokenObj).bind int64? with
      | some (.string id), some expireTime => some (id, expireTime)
      | _, _ => none
  | none => none

/-- The call returns, with both fields from the reply or with none. -/
def HandlesReply (parse : List UInt8 → Option Value) (self : AccessToken)
    (response : List UInt8) : Prop :=
  processGETRequest parse self (.ok response) =
    .returned
      (match tokenReply (document parse response) with
        | some (id, expireTime) =>
            { self with token := id, expireTime := expireTime }
        | none => self)

/-- An object whose `Token`, if it is an object, has both members, with no zero
byte in `Id`. -/
def WellFormedReply : Value → Prop
  | .object members =>
      ∀ tokenObj, members.lookup (bytesOf "Token") = some (.object tokenObj) →
        (∃ id, tokenObj.lookup (bytesOf "Id") = some (.string id) ∧ 0 ∉ id) ∧
        ∃ expireTime,
          (tokenObj.lookup (bytesOf "ExpireTime")).bind int64? =
            some expireTime
  | _ => False

/-- The fields after a token object with a string and an integer: the token is
the whole string exactly when it has no zero byte. -/
theorem updated_eq_iff {self : AccessToken} {id : List UInt8}
    {expireTime : Int} :
    Outcome.returned
        { self with
          token := id.takeWhile (· ≠ 0)
          expireTime := expireTime } =
      .returned { self with token := id, expireTime := expireTime } ↔
      0 ∉ id := by
  rw [← CBuffer.takeWhile_eq_self_iff]
  constructor
  · intro same
    exact congrArg AccessToken.token (Outcome.returned.inj same)
  · intro same
    rw [same]

/-- A reply is handled as it should be exactly when it is an object and its
`Token` is absent, no object, or has both members in the expected form. -/
theorem handlesReply_iff (parse : List UInt8 → Option Value)
    (self : AccessToken) (response : List UInt8) :
    HandlesReply parse self response ↔
      WellFormedReply (document parse response) := by
  rw [HandlesReply, processGETRequest]
  generalize document parse response = reply
  cases reply with
  | object members =>
      simp only [readReply, WellFormedReply, tokenReply, member?]
      cases tokenEq : members.lookup (bytesOf "Token") with
      | none => simp
      | some tokenValue =>
          cases tokenValue with
          | object tokenObj =>
              simp only [Option.some.injEq, Value.object.injEq, forall_eq']
              cases idEq : tokenObj.lookup (bytesOf "Id") with
              | none => simp
              | some idValue =>
                  cases idValue with
                  | string id =>
                      cases timeEq : (tokenObj.lookup
                          (bytesOf "ExpireTime")).bind int64? with
                      | none => simp
                      | some expireTime =>
                          simp only [updated_eq_iff, Option.some.injEq,
                            Value.string.injEq, exists_eq_left', exists_eq',
                            and_true]
                  | _ => simp
          | _ => simp
  | _ => simp [readReply, WellFormedReply]

/-- The body of an error page, which is no JSON. -/
def gatewayReply : List UInt8 :=
  bytesOf "Service Unavailable"

/-- A reply that is no JSON stops the process. -/
theorem not_handlesReply_gatewayReply :
    ¬ HandlesReply JsonText.parse (create [] []) gatewayReply := by
  intro handles
  have wellFormed := (handlesReply_iff _ _ _).mp handles
  exact wellFormed

end AccessToken

end SpeechModules
