import SiteGuard.Directive
import SiteGuard.Json.Wire
import SiteGuard.Rule.Wire

/-!
# Directives as JSON

The form that browsers take request rules in.
-/

namespace SiteGuard

open Json

/-! ## Parts -/

instance : Wire QueryParam where
  shape := .record "QueryKeyValue" (.field "key" true .text (.field "value" true .text .done))
  pack p := (p.key, p.value, ())
  unpack := fun (key, value, ()) => ⟨key, value⟩

def queryTransformRow : Row :=
  .field "addOrReplaceParams" true (.list (Wire.shape QueryParam)) .done

def transformRow : Row :=
  .field "queryTransform" true (.record "QueryTransform" queryTransformRow) .done

instance : Wire Redirection where
  shape :=
    .record "Redirect"
      (.field "url" true .text
        (.field "transform" false (.nullable (.record "UrlTransform" transformRow)) .done))
  pack r :=
    (r.url, absentOr (fun (params : List QueryParam) => ((params.map Wire.pack, ()), ())) r.params, ())
  unpack := fun (url, transform, ()) =>
    ⟨url, orAbsent (fun ((params, ()), ()) => params.map Wire.unpack) transform⟩

instance : Wire Action where
  shape :=
    .variant "type"
      (.case "allow" .done
        (.case "redirect" (.field "redirect" true (Wire.shape Redirection) .done) .none))
  pack
    | .allow => .inl ()
    | .redirect target => .inr (.inl (Wire.pack target, ()))
  unpack
    | .inl () => .allow
    | .inr (.inl (target, ())) => .redirect (Wire.unpack target)

instance : Wire ResourceType where
  shape := .choice ["main_frame"]
  pack _ := (0 : Fin 1)
  unpack _ := .mainFrame

instance : Wire Condition where
  shape :=
    .record "Condition"
      (.field "urlFilter" false (.nullable .text)
        (.field "regexFilter" false (.nullable .text)
          (.field "resourceTypes" true (.list (Wire.shape ResourceType)) .done)))
  pack c := (absentOr id c.urlFilter, absentOr id c.regexFilter, c.resourceTypes.map Wire.pack, ())
  unpack := fun (urlFilter, regexFilter, types, ()) =>
    ⟨orAbsent id urlFilter, orAbsent id regexFilter, types.map Wire.unpack⟩

/-! ## Directives -/

instance : Wire Directive where
  shape :=
    .record "Directive"
      (.field "id" true (.integer .word)
        (.field "priority" true (.integer .word)
          (.field "action" true (Wire.shape Action)
            (.field "condition" true (Wire.shape Condition) .done))))
  pack d := (d.id, d.priority, Wire.pack d.action, Wire.pack d.condition, ())
  unpack := fun (id, priority, action, condition, ()) =>
    ⟨id, priority, Wire.unpack action, Wire.unpack condition⟩

end SiteGuard
