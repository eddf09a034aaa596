import CurlScribe.Target.Basic

namespace CurlScribe

def proxyUrl (proxy : String) : String :=
  if Text.contains "://" proxy then proxy else "http://" ++ proxy

structure ProxyAddress where
  scheme : String
  host : String
  port : Option Nat
  goodPort : Bool

def ProxyAddress.ofString (proxy : String) : Except Target.Fault ProxyAddress := do
  let u ← (Url.ofString (proxyUrl proxy)).mapError .badUrl
  return {
    scheme := .ofList u.scheme
    host := u.host?.getD ""
    port := u.port?.toOption.join.filter (· ≠ 0)
    goodPort := u.port?.isOk }

end CurlScribe
