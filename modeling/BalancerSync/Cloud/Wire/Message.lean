import BalancerSync.Cloud.Call
import BalancerSync.Cloud.Wire.Options
import BalancerSync.Config
import BalancerSync.Http
import BalancerSync.Text.Lines

/-!
# Calls on the wire

How each call is sent: as a request for a path below the endpoint, with the token in a header. For
the metrics, the paths of different resources count as one route.

## Main Definitions

* `Wire.Outline`, `Call.outline` : what a call asks for
* `Wire.Outline.route` : the route that the call counts for
* `Wire.Client`, `Wire.Message` : who sends it and what is sent
* `Wire.Client.message?` : the message for an outline, if it can be sent
-/

namespace BalancerSync.Cloud

namespace Wire

/-- What a call asks for. -/
structure Outline where
  method : String
  path : String
  query : List (String × String)
  body : Option Json
  deriving Repr

/-- A lookup of one resource. -/
def lookup (path : String) : Outline := ⟨"GET", path, [], none⟩

/-- A search for resources by the value of one field. -/
def search (path field value : String) : Outline := ⟨"GET", path, [(field, value)], none⟩

/-- A request with a body. -/
def submission (method path : String) (body : Json) : Outline := ⟨method, path, [], some body⟩

def loadBalancersPath : String := "/load_balancers"

def loadBalancerPath (id : Int) : String := loadBalancersPath ++ "/" ++ toString id

/-- A request for an action on a load balancer. -/
def command (id : Int) (name : String) (fields : List (String × Json)) : Outline :=
  submission "POST" (loadBalancerPath id ++ "/actions/" ++ name) (.obj fields)

/-- The reference to a server. -/
def serverFields (server : Int) : List (String × Json) :=
  [("type", .str "server"), ("server", .obj [("id", .int server)])]

/-- A segment of a path as it counts for the metrics. -/
def routeSegment (segment : List Char) : String :=
  if !segment.isEmpty && segment.all Char.isDigit then "\x7bid\x7d" else String.ofList segment

/-- The route that a call counts for: the method, and the path without identifiers. -/
def Outline.route (o : Outline) : String :=
  o.method ++ " " ++ "/".intercalate ((Text.pieces '/' o.path.toList).map routeSegment)

end Wire

open Wire in
/-- What a call asks for. -/
def Call.outline : Call → Outline
  | getById id => lookup (loadBalancerPath id)
  | getByName name => search loadBalancersPath "name" name
  | listByLabel label => search loadBalancersPath "label_selector" label
  | create options => submission "POST" loadBalancersPath options.toJson
  | update id change => submission "PUT" (loadBalancerPath id) change.toJson
  | delete id => ⟨"DELETE", loadBalancerPath id, [], none⟩
  | changeAlgorithm id a => submission "POST" (loadBalancerPath id ++ "/actions/change_algorithm")
      (algorithmToJson a)
  | changeType id type => command id "change_type" [("load_balancer_type", .str type)]
  | attachToNetwork id network ip =>
    command id "attach_to_network"
      (("network", .int network) :: Json.optional "ip" (ip.map fun a => .str a.text))
  | detachFromNetwork id network => command id "detach_from_network" [("network", .int network)]
  | enablePublicInterface id => command id "enable_public_interface" []
  | disablePublicInterface id => command id "disable_public_interface" []
  | addTarget id server usePrivateIp =>
    command id "add_target" (serverFields server ++ [("use_private_ip", .bool usePrivateIp)])
  | removeTarget id server => command id "remove_target" (serverFields server)
  | addService id options =>
    submission "POST" (loadBalancerPath id ++ "/actions/add_service") options.toJson
  | updateService id port change =>
    submission "POST" (loadBalancerPath id ++ "/actions/update_service") (change.toJson port)
  | deleteService id port => command id "delete_service" [("listen_port", .ofNat port)]
  | getCertificate name => search "/certificates" "name" name
  | getNetworkById id => lookup ("/networks/" ++ toString id)
  | getNetworkByName name => search "/networks" "name" name
  | getAction id => lookup ("/actions/" ++ toString id)

namespace Wire

/-- Who sends messages, and where to. -/
structure Client where
  endpoint : String
  token : String
  deriving DecidableEq, Repr

/-- A request as it is sent. -/
structure Message where
  method : String
  url : String
  authorization : String
  userAgent : String
  contentType : Option String
  body : Option Json
  deriving Repr

namespace Client

/-- The client for an endpoint, with or without slashes at its end. -/
def ofEndpoint (endpoint token : String) : Client :=
  ⟨String.ofList (endpoint.toList.reverse.dropWhile (· == '/')).reverse, token⟩

/-- Whether a character can stand in a header. -/
def isHeaderChar (c : Char) : Bool := c == '\t' || 0x20 ≤ c.toNat && c.toNat != 0x7F

/-- The text after a scheme that messages can be sent with. -/
def authority? (endpoint : String) : Option (List Char) :=
  let cs := endpoint.toList
  (Text.after? "https://".toList cs).or (Text.after? "http://".toList cs)

/-- Whether messages can be sent: the endpoint names a host, and the token fits into a header. -/
def canSend (c : Client) : Bool :=
  ((authority? c.endpoint).any fun rest => !(rest.takeWhile (· ≠ '/')).isEmpty) &&
    c.token.toList.all isHeaderChar

/-- The message for an outline, if it can be sent. -/
def message? (c : Client) (o : Outline) : Option Message :=
  if c.canSend then
    some
      { method := o.method
        url := Http.encodePath (c.endpoint ++ o.path) ++
          (if o.query.isEmpty then "" else "?" ++ Http.encodeQuery o.query)
        authorization := "Bearer " ++ c.token
        userAgent := Version.name ++ "/" ++ Version.number
        contentType := o.body.map fun _ => "application/json"
        body := o.body }
  else none

end Client

end Wire

end BalancerSync.Cloud
