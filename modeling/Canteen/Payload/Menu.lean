import Canteen.Cart.Line
import Canteen.Json.Reader
import Canteen.Order

set_option autoImplicit false

namespace Canteen.Payload

open Json

def menuItem : Json.Record := { name := "MenuItem", size := 4 }

def readMenuItem : Reader Product :=
  menuItem.read
    (fun fields => do
      let available ← fields.field? "available" Reader.bool
      let id ← fields.field? "id" Reader.string
      let name ← fields.field? "name" Reader.string
      let price ← fields.field? "price" Reader.word64
      return {
        id := ← required "id" id
        name := ← required "name" name
        price := ← required "price" price
        available := available.getD true })
    (fun items => do
      return {
        id := ← menuItem.item items 0 Reader.string
        name := ← menuItem.item items 1 Reader.string
        price := ← menuItem.item items 2 Reader.word64
        available := ← Record.itemOr items 3 Reader.bool true })

def menuProducts : Reader (List Product)
  | .object fields => do
      let items ← Fields.field? fields "items" (Reader.list readMenuItem)
      return items.getD []
  | value => Reader.list readMenuItem value

-- Which product was wrong is not told.
def readMenu : Reader (List Product) := fun value =>
  (menuProducts value).mapError fun _ => .noAlternative "MenuResponse"

def cartItem : Json.Record := { name := "CartItem", size := 4 }

def readCartItem : Reader Product :=
  cartItem.read
    (fun fields => do
      let available ← fields.field? "available" Reader.bool
      let id ← fields.field? "id" Reader.string
      let name ← fields.field? "name" Reader.string
      let price ← fields.field? "price" Reader.word64
      return {
        id := ← required "id" id
        name := ← required "name" name
        price := ← required "price" price
        available := ← required "available" available })
    (fun items => do
      return {
        id := ← cartItem.item items 0 Reader.string
        name := ← cartItem.item items 1 Reader.string
        price := ← cartItem.item items 2 Reader.word64
        available := ← cartItem.item items 3 Reader.bool })

def cartLine : Json.Record := { name := "CartLine", size := 5 }

def readCartLine : Reader Cart.Line :=
  cartLine.read
    (fun fields => do
      let available ← fields.field? "available" Reader.bool
      let id ← fields.field? "id" Reader.string
      let name ← fields.field? "name" Reader.string
      let price ← fields.field? "price" Reader.word64
      let qty ← fields.field? "qty" Reader.word32
      return {
        id := ← required "id" id
        name := ← required "name" name
        price := ← required "price" price
        qty := ← required "qty" qty
        available := ← required "available" available })
    (fun items => do
      return {
        id := ← cartLine.item items 0 Reader.string
        name := ← cartLine.item items 1 Reader.string
        price := ← cartLine.item items 2 Reader.word64
        qty := ← cartLine.item items 3 Reader.word32
        available := ← cartLine.item items 4 Reader.bool })

def productFields (product : Product) : List (String × Value) :=
  [("id", .string product.id),
    ("name", .string product.name),
    ("price", .nat product.price.toNat),
    ("available", .bool product.available)]

def lineFields (line : Cart.Line) : List (String × Value) :=
  [("id", .string line.id),
    ("name", .string line.name),
    ("price", .nat line.price.toNat),
    ("qty", .nat line.qty.toNat),
    ("available", .bool line.available)]

end Canteen.Payload
