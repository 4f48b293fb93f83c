import Kperf.Library.TaggedCodec
import Kperf.Types.LoadTraffic

/-! The struct tags of the load profile and of the runner group's spec: each
field with its json tag, its yaml tag and the type it is written as. -/

set_option autoImplicit false

namespace Kperf.Types

open Tagged

def ContentType.codec : Codec ContentType :=
  .wrapped .string ContentType.mk ContentType.name fun _ => rfl

namespace KubeGroupVersionResource

def fields : List (StructField KubeGroupVersionResource) :=
  [.of (.plain "group") (.plain "group") .string (·.group)
      fun kube value => { kube with group := value },
   .of (.plain "version") (.plain "version") .string (·.version)
      fun kube value => { kube with version := value },
   .of (.plain "resource") (.plain "resource") .string (·.resource)
      fun kube value => { kube with resource := value }]

def zero : KubeGroupVersionResource := ⟨"", "", ""⟩

/-- The resource's fields among those of a request: embedded for json, inline
for yaml. -/
def inlined {R : Type} (get : R → KubeGroupVersionResource)
    (set : R → KubeGroupVersionResource → R) : List (StructField R) :=
  fields.map (·.inline get set)

end KubeGroupVersionResource

namespace RequestGet

def fields : List (StructField RequestGet) :=
  KubeGroupVersionResource.inlined (·.kube) (fun request kube => { request with kube := kube }) ++
  [.of (.plain "namespace") (.plain "namespace") .string (·.namespace_)
      fun request value => { request with namespace_ := value },
   .of (.plain "name") (.plain "name") .string (·.name)
      fun request value => { request with name := value }]

def zero : RequestGet := ⟨.zero, "", ""⟩

theorem describes : Describes fields zero where
  agree := by decide
  distinct := by decide
  complete _ := by
    simp [fields, KubeGroupVersionResource.inlined, KubeGroupVersionResource.fields]

def codec : Codec RequestGet := .record fields zero describes

end RequestGet

namespace RequestList

def fields : List (StructField RequestList) :=
  KubeGroupVersionResource.inlined (·.kube) (fun request kube => { request with kube := kube }) ++
  [.of (.plain "namespace") (.plain "namespace") .string (·.namespace_)
      fun request value => { request with namespace_ := value },
   .of (.plain "limit") (.plain "limit") .int (·.limit)
      fun request value => { request with limit := value },
   .of (.plain "selector") (.plain "selector") .string (·.selector)
      fun request value => { request with selector := value },
   .of (.plain "fieldSelector") (.plain "fieldSelector") .string (·.fieldSelector)
      fun request value => { request with fieldSelector := value }]

def zero : RequestList := ⟨.zero, "", 0, "", ""⟩

theorem describes : Describes fields zero where
  agree := by decide
  distinct := by decide
  complete _ := by
    simp [fields, KubeGroupVersionResource.inlined, KubeGroupVersionResource.fields]

def codec : Codec RequestList := .record fields zero describes

end RequestList

namespace RequestWatchList

def fields : List (StructField RequestWatchList) :=
  KubeGroupVersionResource.inlined (·.kube) (fun request kube => { request with kube := kube }) ++
  [.of (.plain "namespace") (.plain "namespace") .string (·.namespace_)
      fun request value => { request with namespace_ := value },
   .of (.plain "selector") (.plain "selector") .string (·.selector)
      fun request value => { request with selector := value },
   .of (.plain "fieldSelector") (.plain "fieldSelector") .string (·.fieldSelector)
      fun request value => { request with fieldSelector := value }]

def zero : RequestWatchList := ⟨.zero, "", "", ""⟩

theorem describes : Describes fields zero where
  agree := by decide
  distinct := by decide
  complete _ := by
    simp [fields, KubeGroupVersionResource.inlined, KubeGroupVersionResource.fields]

def codec : Codec RequestWatchList := .record fields zero describes

end RequestWatchList

namespace RequestPut

def fields : List (StructField RequestPut) :=
  KubeGroupVersionResource.inlined (·.kube) (fun request kube => { request with kube := kube }) ++
  [.of (.plain "namespace") (.plain "namespace") .string (·.namespace_)
      fun request value => { request with namespace_ := value },
   .of (.plain "name") (.plain "name") .string (·.name)
      fun request value => { request with name := value },
   .of (.plain "keySpaceSize") (.plain "keySpaceSize") .int (·.keySpaceSize)
      fun request value => { request with keySpaceSize := value },
   .of (.plain "payloadSize") (.plain "payloadSize") .int (·.payloadSize)
      fun request value => { request with payloadSize := value }]

def zero : RequestPut := ⟨.zero, "", "", 0, 0⟩

theorem describes : Describes fields zero where
  agree := by decide
  distinct := by decide
  complete _ := by
    simp [fields, KubeGroupVersionResource.inlined, KubeGroupVersionResource.fields]

def codec : Codec RequestPut := .record fields zero describes

end RequestPut

namespace RequestPatch

def fields : List (StructField RequestPatch) :=
  KubeGroupVersionResource.inlined (·.kube) (fun request kube => { request with kube := kube }) ++
  [.of (.plain "namespace") (.plain "namespace") .string (·.namespace_)
      fun request value => { request with namespace_ := value },
   .of (.plain "name") (.plain "name") .string (·.name)
      fun request value => { request with name := value },
   .of (.plain "keySpaceSize") (.plain "keySpaceSize") .int (·.keySpaceSize)
      fun request value => { request with keySpaceSize := value },
   .of (.plain "patchType") (.plain "patchType") .string (·.patchType)
      fun request value => { request with patchType := value },
   .of (.plain "body") (.plain "body") .string (·.body)
      fun request value => { request with body := value }]

def zero : RequestPatch := ⟨.zero, "", "", 0, "", ""⟩

theorem describes : Describes fields zero where
  agree := by decide
  distinct := by decide
  complete _ := by
    simp [fields, KubeGroupVersionResource.inlined, KubeGroupVersionResource.fields]

def codec : Codec RequestPatch := .record fields zero describes

end RequestPatch

namespace RequestGetPodLog

def fields : List (StructField RequestGetPodLog) :=
  [.of (.plain "namespace") (.plain "namespace") .string (·.namespace_)
      fun request value => { request with namespace_ := value },
   .of (.plain "name") (.plain "name") .string (·.name)
      fun request value => { request with name := value },
   .of (.plain "container") (.plain "container") .string (·.container)
      fun request value => { request with container := value },
   .of (.plain "tailLines") (.plain "tailLines") (.pointer .int) (·.tailLines)
      fun request value => { request with tailLines := value },
   .of (.plain "limitBytes") (.plain "limitBytes") (.pointer .int) (·.limitBytes)
      fun request value => { request with limitBytes := value }]

def zero : RequestGetPodLog := ⟨"", "", "", none, none⟩

theorem describes : Describes fields zero where
  agree := by decide
  distinct := by decide
  complete _ := by simp [fields]

def codec : Codec RequestGetPodLog := .record fields zero describes

end RequestGetPodLog

namespace RequestPostDel

def fields : List (StructField RequestPostDel) :=
  KubeGroupVersionResource.inlined (·.kube) (fun request kube => { request with kube := kube }) ++
  [.of (.plain "namespace") (.plain "namespace") .string (·.namespace_)
      fun request value => { request with namespace_ := value },
   .of (.plain "deleteRatio") (.plain "deleteRatio") .float (·.deleteRatio)
      fun request value => { request with deleteRatio := value },
   .of (.plain "payloadSize") (.plain "payloadSize") .int (·.payloadSize)
      fun request value => { request with payloadSize := value }]

def zero : RequestPostDel := ⟨.zero, "", 0, 0⟩

theorem describes : Describes fields zero where
  agree := by decide
  distinct := by decide
  complete _ := by
    simp [fields, KubeGroupVersionResource.inlined, KubeGroupVersionResource.fields]

def codec : Codec RequestPostDel := .record fields zero describes

end RequestPostDel

namespace WeightedRequest

def fields : List (StructField WeightedRequest) :=
  [.of (.plain "shares") (.plain "shares") .int (·.shares)
      fun request value => { request with shares := value },
   .of (.omitempty "staleList") (.omitempty "staleList") (.pointer RequestList.codec) (·.staleList)
      fun request value => { request with staleList := value },
   .of (.omitempty "quorumList") (.omitempty "quorumList") (.pointer RequestList.codec)
      (·.quorumList)
      fun request value => { request with quorumList := value },
   .of (.omitempty "watchList") (.omitempty "watchList") (.pointer RequestWatchList.codec)
      (·.watchList)
      fun request value => { request with watchList := value },
   .of (.omitempty "staleGet") (.omitempty "staleGet") (.pointer RequestGet.codec) (·.staleGet)
      fun request value => { request with staleGet := value },
   .of (.omitempty "quorumGet") (.omitempty "quorumGet") (.pointer RequestGet.codec) (·.quorumGet)
      fun request value => { request with quorumGet := value },
   .of (.omitempty "put") (.omitempty "put") (.pointer RequestPut.codec) (·.put)
      fun request value => { request with put := value },
   .of (.omitempty "patch") (.omitempty "patch") (.pointer RequestPatch.codec) (·.patch)
      fun request value => { request with patch := value },
   .of (.omitempty "getPodLog") (.omitempty "getPodLog") (.pointer RequestGetPodLog.codec)
      (·.getPodLog)
      fun request value => { request with getPodLog := value },
   .of (.omitempty "postDel") (.omitempty "postDel") (.pointer RequestPostDel.codec) (·.postDel)
      fun request value => { request with postDel := value }]

def zero : WeightedRequest := ⟨0, none, none, none, none, none, none, none, none, none⟩

theorem describes : Describes fields zero where
  agree := by decide
  distinct := by decide
  complete _ := by simp [fields]

def codec : Codec WeightedRequest := .record fields zero describes

end WeightedRequest

namespace LoadProfileSpec

def fields : List (StructField LoadProfileSpec) :=
  [.of (.plain "rate") (.plain "rate") .float (·.rate)
      fun spec value => { spec with rate := value },
   .of (.plain "total") (.plain "total") .int (·.total)
      fun spec value => { spec with total := value },
   .of (.plain "duration") (.plain "duration") .int (·.duration)
      fun spec value => { spec with duration := value },
   .of (.plain "conns") (.plain "conns") .int (·.conns)
      fun spec value => { spec with conns := value },
   .of (.plain "client") (.plain "client") .int (·.client)
      fun spec value => { spec with client := value },
   .of (.plain "contentType") (.plain "contentType") ContentType.codec (·.contentType)
      fun spec value => { spec with contentType := value },
   .of (.plain "disableHTTP2") (.plain "disableHTTP2") .bool (·.disableHTTP2)
      fun spec value => { spec with disableHTTP2 := value },
   .of (.plain "maxRetries") (.plain "maxRetries") .int (·.maxRetries)
      fun spec value => { spec with maxRetries := value },
   .of (.plain "requests") (.plain "requests") (.slice (.pointer WeightedRequest.codec))
      (·.requests)
      fun spec value => { spec with requests := value }]

def zero : LoadProfileSpec := ⟨0, 0, 0, 0, 0, ⟨""⟩, false, 0, []⟩

theorem describes : Describes fields zero where
  agree := by decide
  distinct := by decide
  complete _ := by simp [fields]

def codec : Codec LoadProfileSpec := .record fields zero describes

end LoadProfileSpec

namespace LoadProfile

def fields : List (StructField LoadProfile) :=
  [.of (.plain "version") (.plain "version") .int (·.version)
      fun profile value => { profile with version := value },
   .of (.omitempty "description") (.plain "description") .string (·.description)
      fun profile value => { profile with description := value },
   .of (.plain "specs") (.plain "specs") (.slice LoadProfileSpec.codec) (·.specs)
      fun profile value => { profile with specs := value }]

def zero : LoadProfile := ⟨0, "", []⟩

theorem describes : Describes fields zero where
  agree := by decide
  distinct := by decide
  complete _ := by simp [fields]

def codec : Codec LoadProfile := .record fields zero describes

end LoadProfile

structure RunnerGroupSpec where
  count : Int
  profile : Option LoadProfile
  nodeAffinity : StringMap (List String)
  serviceAccount : Option String
  ownerReference : Option String

namespace RunnerGroupSpec

def fields : List (StructField RunnerGroupSpec) :=
  [.of (.plain "count") (.plain "count") .int (·.count)
      fun spec value => { spec with count := value },
   .of (.omitempty "loadProfile") (.plain "loadProfile") (.pointer LoadProfile.codec) (·.profile)
      fun spec value => { spec with profile := value },
   .of (.omitempty "nodeAffinity") (.omitempty "nodeAffinity") (.dictionary (.slice .string))
      (·.nodeAffinity)
      fun spec value => { spec with nodeAffinity := value },
   .of (.omitempty "serviceAccount") (.omitempty "serviceAccount") (.pointer .string)
      (·.serviceAccount)
      fun spec value => { spec with serviceAccount := value },
   .of (.omitempty "ownerReference") (.omitempty "ownerReference") (.pointer .string)
      (·.ownerReference)
      fun spec value => { spec with ownerReference := value }]

def zero : RunnerGroupSpec := ⟨0, none, ∅, none, none⟩

theorem describes : Describes fields zero where
  agree := by decide
  distinct := by decide
  complete _ := by simp [fields]

def codec : Codec RunnerGroupSpec := .record fields zero describes

end RunnerGroupSpec

end Kperf.Types
