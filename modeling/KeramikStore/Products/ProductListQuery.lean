import KeramikStore.Library.JsonText
import KeramikStore.Products.ProductMapper

/-!
# The options of a product list and the query that they ask for

The nested filters are objects whose fields come in the order in which they were
set, which their JSON text keeps and the query does not. An absent or empty brand
asks for nothing; three of the sort options stand for the default order.
-/

set_option autoImplicit false

namespace KeramikStore
open Library

inductive ProductSortBy where
  | relevance | price | popularity | createdAt | updatedAt | name | brand | size
deriving DecidableEq, Repr

inductive SortOrder where
  | asc | desc
deriving DecidableEq, Repr

namespace ProductSortBy

def text : ProductSortBy → String
  | relevance => "relevance"
  | price => "price"
  | popularity => "popularity"
  | createdAt => "createdAt"
  | updatedAt => "updatedAt"
  | name => "name"
  | brand => "brand"
  | size => "size"

def isDirect : ProductSortBy → Bool
  | price | createdAt | updatedAt | name | brand => true
  | relevance | popularity | size => false

end ProductSortBy

def SortOrder.text : SortOrder → String
  | asc => "asc"
  | desc => "desc"

/-- The fields of an object in the order in which they were set. -/
structure FieldOrder (φ : Type) (all : List φ) where
  fields : List φ
  listed : fields.Perm all

inductive PriceRangeField where
  | min | max
deriving DecidableEq

inductive SizeField where
  | minWidth | maxWidth | minHeight | maxHeight | minThickness | maxThickness | unit
deriving DecidableEq

inductive AttributesField where
  | grade | finishing | applicationAreas | antiSlipRating | waterAbsorption | color | pattern
  | isOutdoor | frostResistant | peiRating
deriving DecidableEq

structure PriceRangeFilter where
  min : Option JsNumber
  max : Option JsNumber
  order : FieldOrder PriceRangeField [.min, .max]

structure SizeFilter where
  minWidth : Option JsNumber
  maxWidth : Option JsNumber
  minHeight : Option JsNumber
  maxHeight : Option JsNumber
  minThickness : Option JsNumber
  maxThickness : Option JsNumber
  unit : Option String
  order : FieldOrder SizeField
    [.minWidth, .maxWidth, .minHeight, .maxHeight, .minThickness, .maxThickness, .unit]

structure AttributesFilter where
  grade : Option String
  finishing : Option String
  applicationAreas : Option (List String)
  antiSlipRating : Option String
  waterAbsorption : Option String
  color : Option String
  pattern : Option String
  isOutdoor : Option Bool
  frostResistant : Option Bool
  peiRating : Option JsNumber
  order : FieldOrder AttributesField
    [.grade, .finishing, .applicationAreas, .antiSlipRating, .waterAbsorption, .color, .pattern,
      .isOutdoor, .frostResistant, .peiRating]

structure FindAllProductsQueryOptions where
  page : Option JsNumber
  limit : Option JsNumber
  sortBy : Option ProductSortBy
  sortOrder : Option SortOrder
  status : Option ProductStatus
  brand : Option String
  priceRange : Option PriceRangeFilter
  size : Option SizeFilter
  attributes : Option AttributesFilter

inductive AttributeCondition where
  | gte (path : String) (n : JsNumber)
  | lte (path : String) (n : JsNumber)
  | equalsText (path value : String)
  | equalsBool (path : String) (value : Bool)
  | equalsNumber (path : String) (value : JsNumber)
  | arrayContains (path value : String)
  | stringContains (path value : String)
deriving DecidableEq

structure PriceCondition where
  gte : Option JsNumber
  lte : Option JsNumber
deriving DecidableEq

structure ProductWhere where
  status : Option ProductStatus
  brand : Option String
  price : Option PriceCondition
  and : List AttributeCondition
deriving DecidableEq

namespace FindAllProductsQueryOptions

def pageOf (o : FindAllProductsQueryOptions) : JsNumber := o.page.getD (.ofNat 1)
def limitOf (o : FindAllProductsQueryOptions) : JsNumber := o.limit.getD (.ofNat 10)
def sortByOf (o : FindAllProductsQueryOptions) : ProductSortBy := o.sortBy.getD .createdAt
def sortOrderOf (o : FindAllProductsQueryOptions) : SortOrder := o.sortOrder.getD .desc

def brandOf (o : FindAllProductsQueryOptions) : Option String := o.brand.filter (· != "")

def skip (o : FindAllProductsQueryOptions) : JsNumber := (o.pageOf.sub (.ofNat 1)).mul o.limitOf
def take (o : FindAllProductsQueryOptions) : JsNumber := o.limitOf

def orderBy (o : FindAllProductsQueryOptions) : ProductSortBy × SortOrder :=
  if o.sortByOf.isDirect then (o.sortByOf, o.sortOrderOf) else (.createdAt, .desc)

def priceCondition (range : PriceRangeFilter) : Option PriceCondition :=
  if range.min.isSome || range.max.isSome then some ⟨range.min, range.max⟩ else none

def present (s : Option String) : Option String := s.filter (· != "")

def sizeConditions (f : SizeFilter) : List AttributeCondition :=
  (f.minWidth.map (.gte "width")).toList ++ (f.maxWidth.map (.lte "width")).toList ++
    (f.minHeight.map (.gte "height")).toList ++ (f.maxHeight.map (.lte "height")).toList ++
    (f.minThickness.map (.gte "thickness")).toList ++
    (f.maxThickness.map (.lte "thickness")).toList ++
    ((present f.unit).map (.equalsText "unit")).toList

def attributesConditions (f : AttributesFilter) : List AttributeCondition :=
  ((present f.grade).map (.equalsText "grade")).toList ++
    ((present f.finishing).map (.equalsText "finishing")).toList ++
    (f.applicationAreas.getD []).map (.arrayContains "applicationAreas") ++
    ((present f.antiSlipRating).map (.equalsText "antiSlipRating")).toList ++
    ((present f.waterAbsorption).map (.equalsText "waterAbsorption")).toList ++
    ((present f.color).map (.stringContains "color")).toList ++
    ((present f.pattern).map (.stringContains "pattern")).toList ++
    (f.isOutdoor.map (.equalsBool "isOutdoor")).toList ++
    (f.frostResistant.map (.equalsBool "frostResistant")).toList ++
    (f.peiRating.map (.equalsNumber "peiRating")).toList

def buildWhereClause (o : FindAllProductsQueryOptions) : ProductWhere where
  status := o.status
  brand := o.brandOf
  price := o.priceRange.bind priceCondition
  and := (o.size.map sizeConditions).getD [] ++ (o.attributes.map attributesConditions).getD []

section Json
open JsonText

variable (numberText : JsNumber → String)

def priceRangeField (f : PriceRangeFilter) : PriceRangeField → Option (String × List Char)
  | .min => f.min.map fun n => ("min", number numberText n)
  | .max => f.max.map fun n => ("max", number numberText n)

def sizeField (f : SizeFilter) : SizeField → Option (String × List Char)
  | .minWidth => f.minWidth.map fun n => ("minWidth", number numberText n)
  | .maxWidth => f.maxWidth.map fun n => ("maxWidth", number numberText n)
  | .minHeight => f.minHeight.map fun n => ("minHeight", number numberText n)
  | .maxHeight => f.maxHeight.map fun n => ("maxHeight", number numberText n)
  | .minThickness => f.minThickness.map fun n => ("minThickness", number numberText n)
  | .maxThickness => f.maxThickness.map fun n => ("maxThickness", number numberText n)
  | .unit => f.unit.map fun s => ("unit", string s)

def attributesField (f : AttributesFilter) : AttributesField → Option (String × List Char)
  | .grade => f.grade.map fun s => ("grade", string s)
  | .finishing => f.finishing.map fun s => ("finishing", string s)
  | .applicationAreas =>
    f.applicationAreas.map fun areas => ("applicationAreas", array (areas.map string))
  | .antiSlipRating => f.antiSlipRating.map fun s => ("antiSlipRating", string s)
  | .waterAbsorption => f.waterAbsorption.map fun s => ("waterAbsorption", string s)
  | .color => f.color.map fun s => ("color", string s)
  | .pattern => f.pattern.map fun s => ("pattern", string s)
  | .isOutdoor => f.isOutdoor.map fun b => ("isOutdoor", bool b)
  | .frostResistant => f.frostResistant.map fun b => ("frostResistant", bool b)
  | .peiRating => f.peiRating.map fun n => ("peiRating", number numberText n)

def complexFields (o : FindAllProductsQueryOptions) : List (String × List Char) :=
  (o.priceRange.map fun f =>
      ("priceRange", object (f.order.fields.filterMap (priceRangeField numberText f)))).toList ++
    (o.size.map fun f =>
      ("size", object (f.order.fields.filterMap (sizeField numberText f)))).toList ++
    (o.attributes.map fun f =>
      ("attributes", object (f.order.fields.filterMap (attributesField numberText f)))).toList

def complexJson (o : FindAllProductsQueryOptions) : Option (List Char) :=
  match o.complexFields numberText with
  | [] => none
  | fields => some (object fields)

end Json

end FindAllProductsQueryOptions

end KeramikStore
