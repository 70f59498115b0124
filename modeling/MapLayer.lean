import MapLayer.BoundingBox
import MapLayer.Calendar.Date
import MapLayer.Calendar.Instant
import MapLayer.Calendar.Reader
import MapLayer.Catalog
import MapLayer.Client
import MapLayer.Column
import MapLayer.Command.Args
import MapLayer.Command.Run
import MapLayer.Context
import MapLayer.Cql.Fragment
import MapLayer.Cql.Split
import MapLayer.DateMath
import MapLayer.Decimal.Layout
import MapLayer.Decimal.Reader
import MapLayer.Decimal.Shortest
import MapLayer.Descriptor
import MapLayer.Environment.Expand
import MapLayer.Environment.File
import MapLayer.Failure
import MapLayer.Filter.Basic
import MapLayer.Filter.Cql
import MapLayer.Filter.Distance
import MapLayer.Filter.Predicate
import MapLayer.Geometry.Basic
import MapLayer.Geometry.Wkt
import MapLayer.Host
import MapLayer.Json.Basic
import MapLayer.Json.Decode
import MapLayer.Json.Ignored
import MapLayer.Json.Number
import MapLayer.Json.Parser
import MapLayer.Json.Printer
import MapLayer.Json.Shape
import MapLayer.Json.Token
import MapLayer.Keyed
import MapLayer.Main
import MapLayer.Network
import MapLayer.Proofs.Calendar.Clock
import MapLayer.Proofs.Calendar.Months
import MapLayer.Proofs.Calendar.Reader
import MapLayer.Proofs.Calendar.Unbounded
import MapLayer.Proofs.Context.Anew
import MapLayer.Proofs.Context.Balance
import MapLayer.Proofs.Context.Cleanup
import MapLayer.Proofs.Context.Isolation
import MapLayer.Proofs.Context.Nudge
import MapLayer.Proofs.Context.Refresh
import MapLayer.Proofs.Context.Registry
import MapLayer.Proofs.Context.Run
import MapLayer.Proofs.Cql.Classify
import MapLayer.Proofs.Cql.Join
import MapLayer.Proofs.Cql.Runs
import MapLayer.Proofs.Cql.Scan
import MapLayer.Proofs.DateMath.Checked
import MapLayer.Proofs.DateMath.Evaluation
import MapLayer.Proofs.DateMath.Expression
import MapLayer.Proofs.DateMath.Language
import MapLayer.Proofs.DateMath.Order
import MapLayer.Proofs.DateMath.Period
import MapLayer.Proofs.DateMath.Route
import MapLayer.Proofs.DateMath.Tiling
import MapLayer.Proofs.Decimal.Distinct
import MapLayer.Proofs.Decimal.Equal
import MapLayer.Proofs.Decimal.Finite
import MapLayer.Proofs.Decimal.Interval
import MapLayer.Proofs.Descriptor
import MapLayer.Proofs.Discovery
import MapLayer.Proofs.Environment.Braces
import MapLayer.Proofs.Environment.Segments
import MapLayer.Proofs.Filter.Clauses
import MapLayer.Proofs.Filter.Distance
import MapLayer.Proofs.Filter.Negation
import MapLayer.Proofs.Filter.Plain
import MapLayer.Proofs.Filter.Relevance
import MapLayer.Proofs.Filter.RoundTrip
import MapLayer.Proofs.Geometry.Distinct
import MapLayer.Proofs.Geometry.GeoJson
import MapLayer.Proofs.Geometry.Stripped
import MapLayer.Proofs.Geometry.Wkt
import MapLayer.Proofs.Json.Canonical
import MapLayer.Proofs.Json.Record
import MapLayer.Proofs.Query.Clause
import MapLayer.Proofs.Query.Cql
import MapLayer.Proofs.Query.Fields
import MapLayer.Proofs.Query.Grammar
import MapLayer.Proofs.Query.Grouped
import MapLayer.Proofs.Query.Literals
import MapLayer.Proofs.Query.Padded
import MapLayer.Proofs.Query.Reading
import MapLayer.Proofs.Query.Rows
import MapLayer.Proofs.Query.Scalar
import MapLayer.Proofs.Query.Steady
import MapLayer.Proofs.Query.Translation
import MapLayer.Proofs.Query.Tree
import MapLayer.Proofs.Query.Written
import MapLayer.Proofs.Request.Filled
import MapLayer.Proofs.Request.Parameters
import MapLayer.Proofs.Request.Placeholder
import MapLayer.Proofs.Request.ReadsBack
import MapLayer.Proofs.Request.Template
import MapLayer.Proofs.Request.Tile
import MapLayer.Proofs.Response.Capabilities
import MapLayer.Proofs.Response.FeatureGroups
import MapLayer.Proofs.Response.Respelled
import MapLayer.Proofs.Session.Click
import MapLayer.Proofs.Session.Dispatch
import MapLayer.Proofs.Session.Run
import MapLayer.Proofs.Sld.Checked
import MapLayer.Proofs.Sld.Drawn
import MapLayer.Proofs.Sld.Label
import MapLayer.Proofs.Sld.Parts
import MapLayer.Proofs.Sld.Reader
import MapLayer.Proofs.Sld.Summary
import MapLayer.Proofs.Staleness
import MapLayer.Proofs.Style.Filter
import MapLayer.Proofs.Style.Stored
import MapLayer.Proofs.Style.Symbolizer
import MapLayer.Proofs.Text.Cut
import MapLayer.Proofs.Text.Ideograph
import MapLayer.Proofs.Text.Joined
import MapLayer.Proofs.Text.Lines
import MapLayer.Proofs.Text.Pieces
import MapLayer.Proofs.Text.Replace
import MapLayer.Proofs.Text.Steady
import MapLayer.Proofs.Text.Upper
import MapLayer.Proofs.Text.Utf8
import MapLayer.Proofs.TileUrl.Address
import MapLayer.Proofs.TileUrl.Column
import MapLayer.Proofs.TileUrl.Exact
import MapLayer.Proofs.TileUrl.Filter
import MapLayer.Proofs.TileUrl.Recovered
import MapLayer.Proofs.TileUrl.Reuse
import MapLayer.Proofs.Url.Ascii
import MapLayer.Proofs.Url.Form
import MapLayer.Proofs.Url.Host
import MapLayer.Proofs.Url.Ideograph
import MapLayer.Proofs.Url.Numeral
import MapLayer.Proofs.Url.Parts
import MapLayer.Proofs.Url.Punycode
import MapLayer.Proofs.Url.Rooted
import MapLayer.Proofs.Url.Written
import MapLayer.Proofs.Xml.Events
import MapLayer.Proofs.Xml.Markup
import MapLayer.Proofs.Xml.Reader
import MapLayer.Proofs.Xml.Text
import MapLayer.Proofs.Xml.Tree
import MapLayer.Query.Basic
import MapLayer.Query.Clause
import MapLayer.Query.Cql
import MapLayer.Query.Parser
import MapLayer.Request.Discovery
import MapLayer.Request.FeatureInfo
import MapLayer.Request.GetMap
import MapLayer.Response.Capabilities
import MapLayer.Response.FeatureGroups
import MapLayer.Response.LayerDescription
import MapLayer.Selection
import MapLayer.Services
import MapLayer.Session
import MapLayer.Settings
import MapLayer.Sld.Document
import MapLayer.Sld.Label
import MapLayer.Source
import MapLayer.Staleness
import MapLayer.Style.Basic
import MapLayer.Style.Check
import MapLayer.Style.Filter
import MapLayer.Style.Json
import MapLayer.Text.Blank
import MapLayer.Text.Combining
import MapLayer.Text.Letter
import MapLayer.Text.Lower
import MapLayer.Text.Normal
import MapLayer.Text.Reader
import MapLayer.Text.Split
import MapLayer.Text.Table
import MapLayer.Text.Upper
import MapLayer.Text.Utf8
import MapLayer.TileUrl
import MapLayer.TimeWindow
import MapLayer.Tooltip
import MapLayer.Url.Basic
import MapLayer.Url.Domain
import MapLayer.Url.Domain.Direction
import MapLayer.Url.Domain.Joiner
import MapLayer.Url.Domain.Mapping
import MapLayer.Url.Form
import MapLayer.Url.Host
import MapLayer.Url.Path
import MapLayer.Url.Percent
import MapLayer.Url.Punycode
import MapLayer.Xml.Attribute
import MapLayer.Xml.Entity
import MapLayer.Xml.Event
import MapLayer.Xml.Node
import MapLayer.Yaml.Node
import MapLayer.Yaml.Scalar
import MapLayer.Yaml.Token
