import MetricRelay.Log.Event
import MetricRelay.Tag.Basic
import MetricRelay.Text.Base64
import MetricRelay.Unicode.Case

namespace MetricRelay

def maxTaggedNameSize : Nat := 4096

def maxTags : Nat := 256

def maxCategorySize : Nat := 254

def maxTagSize : Nat := 256

inductive TagLimitPolicy
  | truncate
  | dropMetric
deriving DecidableEq, Repr, Inhabited

structure TagEncoder where
  base64 : Bool := false
  policy : TagLimitPolicy := .truncate
deriving DecidableEq, Repr, Inhabited

def streamMarker : List Char := "|ST[".toList

def measurementMarker : List Char := "|MT[".toList

def utf8Bytes (s : List Char) : List UInt8 := (String.ofList s).toUTF8.toList

def utf8Size (s : List Char) : Nat := (String.ofList s).utf8ByteSize

def encodePart (s : List Char) : List Char := 'b' :: '"' :: (Text.Base64.encode (utf8Bytes s) ++ ['"'])

namespace Tag

def withinLimits (t : Tag) : Bool := t.category.utf8ByteSize ≤ maxCategorySize && t.size ≤ maxTagSize

/-- The tag as the base-64 form keeps it: lower-case category, no white space. -/
def normalized (t : Tag) : Tag :=
  ⟨String.ofList (Text.stripBlanks (Unicode.lower t.category.toList)),
    String.ofList (Text.stripBlanks t.value.toList)⟩

def encodeBase64 (t : Tag) : List Char :=
  let value := t.normalized.value.toList
  encodePart t.normalized.category.toList ++ ':' :: (if value = [] then [] else encodePart value)

end Tag

inductive TagDecodeError
  | notWrapped (part : String)
  | invalidBase64 (part : String)
  | invalidUtf8 (part : String)
deriving DecidableEq, Repr

def TagDecodeError.message : TagDecodeError → String
  | notWrapped part => "encoded tag part '" ++ part ++ "' is not wrapped as b\"...\""
  | invalidBase64 part => "encoded tag part '" ++ part ++ "' is not valid base64"
  | invalidUtf8 part => "decoded tag part '" ++ part ++ "' is not valid UTF-8"

def decodePart (part : List Char) : Except TagDecodeError String :=
  match (Text.dropStart? ['b', '"'] part).bind (Text.dropEnd? ['"']) with
  | none => .error (.notWrapped (String.ofList part))
  | some inner =>
    match Text.Base64.decode? inner with
    | none => .error (.invalidBase64 (String.ofList part))
    | some bytes =>
      match String.fromUTF8? bytes.toByteArray with
      | some text => .ok text
      | none => .error (.invalidUtf8 (String.ofList part))

/-- Reads a tag in base-64 form. The category ends at the first quote that a colon follows. -/
def Tag.decode (encoded : List Char) : Except TagDecodeError Tag := do
  let (category, value) := match Text.cutAt? ['"', ':'] encoded with
    | some (category, value) => (category ++ ['"'], value)
    | none => (encoded, [])
  let category ← decodePart category
  let value ← if value = [] then pure "" else decodePart value
  return ⟨category, value⟩

namespace TagEncoder

def encodeTag (e : TagEncoder) (t : Tag) : List Char := if e.base64 then t.encodeBase64 else t.text.toList

/-- The tags that count, of each group, unless the policy refuses the metric. Stream tags come first. -/
def selectTags? (e : TagEncoder) (stream measurement : TagList) : Option (List Tag × List Tag) :=
  if stream.size + measurement.size ≤ maxTags then some (stream.tags, measurement.tags)
  else match e.policy with
    | .dropMetric => none
    | .truncate =>
      let kept := min stream.size maxTags
      some (stream.tags.take kept, measurement.tags.take (maxTags - kept))

/-- A group of tags behind its marker; oversized tags are left out, and so is an empty group. -/
def encodeGroup (e : TagEncoder) (marker : List Char) (tags : List Tag) : List Char :=
  match tags.filter Tag.withinLimits with
  | [] => []
  | t :: rest => marker ++ e.encodeTag t ++ rest.flatMap (fun t ↦ ',' :: e.encodeTag t) ++ [']']

def assemble (e : TagEncoder) (name : List Char) (groups : List Tag × List Tag) : List Char :=
  name ++ e.encodeGroup streamMarker groups.1 ++ e.encodeGroup measurementMarker groups.2

def taggedName? (e : TagEncoder) (name : String) (stream measurement : TagList) : Option String :=
  match e.selectTags? stream measurement with
  | none => none
  | some groups =>
    let text := e.assemble name.toList groups
    if maxTaggedNameSize < utf8Size text then none else some (String.ofList text)

open Log in
def tagEvents (name : String) (t : Tag) : List Event :=
  if maxCategorySize < t.category.utf8ByteSize then
    [⟨.warn, .tags, "Dropping tag with oversized category.",
      [.ofText "metric_name" name, .ofText "tag_category" t.category, .ofNat "max_len" maxCategorySize]⟩]
  else if maxTagSize < t.size then
    [⟨.warn, .tags, "Dropping oversized tag.",
      [.ofText "metric_name" name, .ofText "tag_category" t.category, .ofNat "len" t.size,
        .ofNat "max_len" maxTagSize]⟩]
  else []

open Log in
def taggedNameEvents (e : TagEncoder) (name : String) (stream measurement : TagList) : List Event :=
  let total := stream.size + measurement.size
  let counts := [.ofText "metric_name" name, .ofNat "total_tags" total, .ofNat "max_tags" maxTags]
  match e.selectTags? stream measurement with
  | none => [⟨.warn, .tags, "Dropping metric with too many tags.", counts⟩]
  | some groups =>
    let text := e.assemble name.toList groups
    (if maxTags < total then [⟨.warn, .tags, "Truncating tags for metric with too many tags.", counts⟩] else []) ++
      (groups.1 ++ groups.2).flatMap (tagEvents name) ++
      (if maxTaggedNameSize < utf8Size text then
        [⟨.warn, .tags, "Dropping metric with oversized tagged name.",
          [.ofText "metric_name" name, .ofNat "len" (utf8Size text), .ofNat "max_len" maxTaggedNameSize]⟩]
      else [])

end TagEncoder
end MetricRelay
